import Songpark.Text.Scan
import Mathlib.Data.List.Basic
import Mathlib.Tactic.IntervalCases

/-!
# Address parsers

`extractIpAddress` and `extractMacAddress` are one loop over the characters of
the text: the characters of a group are collected in a buffer of five bytes, and
a group ends at a dot or at the last character.  Index and counters are single
bytes, so the loop does not come back from a text of more than 255 characters
without leaving one of its arrays.

The faithful loop is shown to compute `groupScan`, which recurses over the text
and carries the group read so far.
-/

namespace Songpark.Address

open Songpark.Scan

/-- An assignment to an array element; `none` when it is outside the array. -/
def storeAt {α : Type*} (array : List α) (index : ℕ) (value : α) :
    Option (List α) :=
  if index < array.length then some (array.set index value) else none

/-- The text in a character array: everything before the first NUL. -/
def cString (buf : Text) : Text := buf.takeWhile (· ≠ '\x00')

/-- The local variables of a parser besides the index. -/
structure Locals where
  cnt : ℕ
  cnt1 : ℕ
  buf : List Char
  oct : List (BitVec 8)

/-- `buf[cnt++] = c`. -/
def collect (c : Char) (locals : Locals) : Option Locals := do
  let buf ← storeAt locals.buf locals.cnt c
  some { locals with buf := buf, cnt := (locals.cnt + 1) % 256 }

/-- `buf[cnt] = '\0'; cnt = 0; oct[cnt1++] = convert(buf)`. -/
def finish (convert : Text → BitVec 8) (locals : Locals) : Option Locals := do
  let buf ← storeAt locals.buf locals.cnt '\x00'
  let oct ← storeAt locals.oct locals.cnt1 (convert (cString buf))
  some { cnt := 0, cnt1 := (locals.cnt1 + 1) % 256, buf := buf, oct := oct }

/-- One round of the loop for index `i` of a text whose length is `len`. -/
def extractStep (convert : Text → BitVec 8) (sourceString : Text) (len i : ℕ)
    (locals : Locals) : Option Locals := do
  let c := sourceString.getD i '\x00'
  let locals ← if c ≠ '.' then collect c locals else some locals
  if c = '.' ∨ i + 1 = len then finish convert locals else some locals

/-- The loop; `none` when it stores outside an array or does not end. -/
def extractLoop (convert : Text → BitVec 8) (sourceString : Text) (len : ℕ) :
    ℕ → ℕ → Locals → Option Locals
  | 0, i, locals => if i < len then none else some locals
  | fuel + 1, i, locals =>
      if i < len then do
        let locals ← extractStep convert sourceString len i locals
        extractLoop convert sourceString len fuel ((i + 1) % 256) locals
      else some locals

/-- The bytes a parser hands back.  Every cell of `buf` that is read has been
written before, so its initial content does not matter; a text that needs more
than 256 rounds never ends, since the index is a single byte. -/
def extractAddress (octets : ℕ) (convert : Text → BitVec 8)
    (sourceString : Text) : Option (Fin octets → BitVec 8) :=
  let len := sourceString.length % 65536
  let start : Locals :=
    { cnt := 0
      cnt1 := 0
      buf := List.replicate 5 '\x00'
      oct := List.replicate octets 0 }
  (extractLoop convert sourceString len 256 0 start).map fun locals index =>
    locals.oct.getD index 0

def extractIpAddress (sourceString : Text) : Option (Fin 4 → BitVec 8) :=
  extractAddress 4 (fun group => (atoi group).setWidth 8) sourceString

def extractMacAddress (sourceString : Text) : Option (Fin 6 → BitVec 8) :=
  extractAddress 6 (fun group => BitVec.ofInt 8 (strtol 16 group)) sourceString

/-- `(o[0]<<24)|(o[1]<<16)|(o[2]<<8)|(o[3])`, each octet first extended to an
`int`. -/
def packOctets (extend : BitVec 8 → BitVec 32) (octets : Fin 4 → BitVec 8) :
    BitVec 32 :=
  (extend (octets 0) <<< 24) ||| (extend (octets 1) <<< 16) |||
    (extend (octets 2) <<< 8) ||| extend (octets 3)

/-- The packed word of `unsigned char` octets. -/
def ipWord (octets : Fin 4 → BitVec 8) : BitVec 32 :=
  packOctets (·.setWidth 32) octets

/-- What `print_ip` prints and leaves in its buffer, apart from the newline. -/
def printIp (ip : BitVec 32) : Text :=
  let byte (shift : ℕ) : ℕ := ((ip >>> shift) &&& 0xFF).toNat
  decimal (byte 24) ++ '.' :: (decimal (byte 16) ++
    '.' :: (decimal (byte 8) ++ '.' :: decimal (byte 0)))

/-! ## Scanning by groups -/

variable (octets : ℕ) (convert : Text → BitVec 8)

/-- Store the value of a finished group. -/
def closeGroup (group : Text) (done : List (BitVec 8)) :
    Option (List (BitVec 8)) :=
  if group.length < 5 ∧ done.length < octets then
    some (done ++ [convert group])
  else none

/-- The parsers without arrays: `group` holds the characters since the last
dot, `done` the values of the groups before it. -/
def groupScan : Text → Text → List (BitVec 8) → Option (List (BitVec 8))
  | [], _, done => some done
  | c :: rest, group, done =>
      if c = '.' then do
        let done ← closeGroup octets convert group done
        groupScan rest [] done
      else if group.length < 5 then
        if rest = [] then closeGroup octets convert (group ++ [c]) done
        else groupScan rest (group ++ [c]) done
      else none

/-- The arrays of the loop hold the group read so far, and the values of the
finished groups followed by zeros. -/
structure Holds (group : Text) (done : List (BitVec 8)) (locals : Locals) :
    Prop where
  cnt_eq : locals.cnt = group.length
  cnt1_eq : locals.cnt1 = done.length
  buf_length : locals.buf.length = 5
  buf_take : locals.buf.take group.length = group
  group_length : group.length ≤ 5
  done_length : done.length ≤ octets
  oct_eq : locals.oct = done ++ List.replicate (octets - done.length) 0

variable {octets convert}

theorem Holds.collect {group : Text} {done : List (BitVec 8)}
    {locals : Locals} (hholds : Holds octets group done locals)
    (hroom : group.length < 5) (c : Char) :
    ∃ reached, Address.collect c locals = some reached ∧
      Holds octets (group ++ [c]) done reached := by
  have hindex : locals.cnt < locals.buf.length := by
    rw [hholds.cnt_eq, hholds.buf_length]
    exact hroom
  refine ⟨{ locals with
    buf := locals.buf.set locals.cnt c
    cnt := (locals.cnt + 1) % 256 }, by simp [Address.collect, storeAt, hindex], ?_⟩
  constructor
  · have := hholds.cnt_eq
    simp only [List.length_append, List.length_singleton]
    omega
  · exact hholds.cnt1_eq
  · simpa using hholds.buf_length
  · rw [List.length_append, List.length_singleton, List.take_add_one,
      List.take_set_of_le (by rw [hholds.cnt_eq]), hholds.buf_take,
      hholds.cnt_eq,
      List.getElem?_set_self (by rw [hholds.buf_length]; exact hroom)]
    rfl
  · simp only [List.length_append, List.length_singleton]
    omega
  · exact hholds.done_length
  · exact hholds.oct_eq

theorem Holds.collect_full {group : Text} {done : List (BitVec 8)}
    {locals : Locals} (hholds : Holds octets group done locals)
    (hfull : ¬ group.length < 5) (c : Char) :
    Address.collect c locals = none := by
  have hindex : ¬ locals.cnt < locals.buf.length := by
    rw [hholds.cnt_eq, hholds.buf_length]
    exact hfull
  simp [Address.collect, storeAt, hindex]

/-- Before the terminating NUL the buffer holds exactly the group. -/
theorem Holds.cString_eq {group : Text} {done : List (BitVec 8)}
    {locals : Locals} (hholds : Holds octets group done locals)
    (hroom : group.length < 5) (hnul : '\x00' ∉ group) :
    cString (locals.buf.set locals.cnt '\x00') = group := by
  have hsplit : locals.buf.set locals.cnt '\x00' =
      group ++ '\x00' :: locals.buf.drop (group.length + 1) := by
    rw [hholds.cnt_eq, List.set_eq_take_append_cons_drop,
      if_pos (by rw [hholds.buf_length]; exact hroom), hholds.buf_take]
  rw [cString, hsplit, List.takeWhile_append_of_pos]
  · simp
  · intro c hc
    have hne : c ≠ '\x00' := fun heq => hnul (heq ▸ hc)
    simpa using hne

variable (convert) in
/-- Ending a group stores its value, or leaves an array exactly when the scan
by groups fails. -/
theorem Holds.finish {group : Text} {done : List (BitVec 8)}
    {locals : Locals} (hholds : Holds octets group done locals)
    (hoctets : octets ≤ 255) (hnul : '\x00' ∉ group) :
    match closeGroup octets convert group done with
    | some values =>
        ∃ reached, Address.finish convert locals = some reached ∧
          Holds octets [] values reached
    | none => Address.finish convert locals = none := by
  have hoctLength : locals.oct.length = octets := by
    have := hholds.done_length
    rw [hholds.oct_eq]
    simp only [List.length_append, List.length_replicate]
    omega
  by_cases hroom : group.length < 5
  · have hbuf : locals.cnt < locals.buf.length := by
      rw [hholds.cnt_eq, hholds.buf_length]
      exact hroom
    have hterminated := hholds.cString_eq hroom hnul
    by_cases hdone : done.length < octets
    · have hoct : locals.cnt1 < locals.oct.length := by
        rw [hholds.cnt1_eq, hoctLength]
        exact hdone
      rw [closeGroup, if_pos ⟨hroom, hdone⟩]
      refine ⟨{
        cnt := 0
        cnt1 := (locals.cnt1 + 1) % 256
        buf := locals.buf.set locals.cnt '\x00'
        oct := locals.oct.set locals.cnt1 (convert group) },
        by simp [Address.finish, storeAt, hbuf, hoct, hterminated], ?_⟩
      constructor
      · rfl
      · have := hholds.cnt1_eq
        simp only [List.length_append, List.length_singleton]
        omega
      · simpa using hholds.buf_length
      · simp
      · simp
      · simp only [List.length_append, List.length_singleton]
        omega
      · have hcount : octets - done.length =
            (octets - (done.length + 1)) + 1 := by omega
        rw [hholds.cnt1_eq, hholds.oct_eq, hcount, List.replicate_succ,
          List.set_append_right _ _ le_rfl, Nat.sub_self, List.set_cons_zero]
        simp
    · have hoct : ¬ locals.cnt1 < locals.oct.length := by
        rw [hholds.cnt1_eq, hoctLength]
        exact hdone
      rw [closeGroup, if_neg fun hboth => hdone hboth.2]
      simp [Address.finish, storeAt, hbuf, hoct]
  · have hbuf : ¬ locals.cnt < locals.buf.length := by
      rw [hholds.cnt_eq, hholds.buf_length]
      exact hroom
    rw [closeGroup, if_neg fun hboth => hroom hboth.1]
    simp [Address.finish, storeAt, hbuf]

/-- The octets an array of values stands for; missing groups are zero. -/
def padded (octets : ℕ) (done : List (BitVec 8)) : List (BitVec 8) :=
  done ++ List.replicate (octets - done.length) 0

variable (convert) in
/-- What goes on alike from the value of a finished group in the arrays and in
the scan goes on alike from the end of that group. -/
theorem Holds.finish_bind {group : Text} {done : List (BitVec 8)}
    {locals : Locals} (hholds : Holds octets group done locals)
    (hoctets : octets ≤ 255) (hnul : '\x00' ∉ group)
    {loop : Locals → Option Locals}
    {scan : List (BitVec 8) → Option (List (BitVec 8))}
    (hfuture : ∀ values reached, Holds octets [] values reached →
      (loop reached).map Locals.oct = (scan values).map (padded octets)) :
    ((Address.finish convert locals).bind loop).map Locals.oct =
      ((closeGroup octets convert group done).bind scan).map
        (padded octets) := by
  have hclose := hholds.finish convert hoctets hnul
  cases hvalues : closeGroup octets convert group done with
  | none =>
      rw [hvalues] at hclose
      rw [hclose]
      rfl
  | some values =>
      rw [hvalues] at hclose
      obtain ⟨reached, hfinish, hheld⟩ := hclose
      rw [hfinish, Option.bind_some, Option.bind_some]
      exact hfuture values reached hheld

variable (convert) in
/-- A round reads the character after those before it, and ends a group at a dot
or at the end of the text. -/
theorem extractStep_append (before rest : Text) (c : Char) (locals : Locals) :
    extractStep convert (before ++ c :: rest) (before ++ c :: rest).length
        before.length locals =
      (if c ≠ '.' then collect c locals else some locals) >>= fun locals =>
        if c = '.' ∨ rest = [] then finish convert locals else some locals := by
  have hc : (before ++ c :: rest).getD before.length '\x00' = c := by simp
  have hlast : before.length + 1 = (before ++ c :: rest).length ↔
      rest = [] := by
    rw [← List.length_eq_zero_iff]
    simp only [List.length_append, List.length_cons]
    omega
  simp only [extractStep, hc, hlast]
  split_ifs <;> rfl

variable (convert) in
/-- From any round on, the loop computes what the scan of the remaining text
computes. -/
theorem extractLoop_eq_groupScan {sourceString : Text}
    (hlength : sourceString.length ≤ 255) (hoctets : octets ≤ 255)
    (before rest group : Text) (done : List (BitVec 8)) (locals : Locals)
    (hsource : sourceString = before ++ rest)
    (hholds : Holds octets group done locals)
    (hgroup : '\x00' ∉ group) (hrest : '\x00' ∉ rest)
    (fuel : ℕ) (hfuel : rest.length ≤ fuel) :
    (extractLoop convert sourceString sourceString.length fuel before.length
        locals).map Locals.oct =
      (groupScan octets convert rest group done).map (padded octets) := by
  induction rest generalizing before group done locals fuel with
  | nil =>
      have hend : ¬ before.length < sourceString.length := by
        rw [hsource, List.append_nil]
        exact lt_irrefl _
      cases fuel <;> simp [extractLoop, hend, groupScan, padded, hholds.oct_eq]
  | cons c rest ih =>
      obtain ⟨fuel, rfl⟩ : ∃ remaining, fuel = remaining + 1 :=
        ⟨fuel - 1, by simp only [List.length_cons] at hfuel; omega⟩
      have hindex : before.length < sourceString.length := by
        rw [hsource]
        simp
      have hnext : (before.length + 1) % 256 = before.length + 1 := by omega
      have hsplit : sourceString = (before ++ [c]) ++ rest := by
        rw [hsource]
        simp
      have hstep := extractStep_append convert before rest c locals
      rw [← hsource] at hstep
      have hnulc : '\x00' ≠ c := fun heq => hrest (heq ▸ List.mem_cons_self)
      have hnulrest : '\x00' ∉ rest := fun hmem =>
        hrest (List.mem_cons_of_mem _ hmem)
      have hfuelrest : rest.length ≤ fuel := by
        simp only [List.length_cons] at hfuel
        omega
      have hfuture : ∀ group done locals, Holds octets group done locals →
          '\x00' ∉ group →
          (extractLoop convert sourceString sourceString.length fuel
              (before.length + 1) locals).map Locals.oct =
            (groupScan octets convert rest group done).map (padded octets) := by
        intro group done locals hheld hfree
        simpa using ih (before ++ [c]) group done locals hsplit hheld hfree
          hnulrest fuel hfuelrest
      rw [extractLoop, if_pos hindex, hstep]
      simp only [hnext]
      by_cases hdot : c = '.'
      · subst hdot
        rw [groupScan, if_pos rfl]
        exact hholds.finish_bind convert hoctets hgroup
          fun values reached hheld =>
            hfuture [] values reached hheld List.not_mem_nil
      · by_cases hroom : group.length < 5
        · obtain ⟨reached, hcollect, hheld⟩ := hholds.collect hroom c
          have hfree : '\x00' ∉ group ++ [c] := by simp [hgroup, hnulc]
          by_cases hempty : rest = []
          · -- The last character both enters the group and ends it.
            subst hempty
            have hlast := hheld.finish_bind convert hoctets hfree
              fun values reached hheld =>
                hfuture [] values reached hheld List.not_mem_nil
            simpa [groupScan, hdot, hroom, hcollect] using hlast
          · simp [groupScan, hdot, hroom, hempty, hcollect,
              hfuture (group ++ [c]) done reached hheld hfree]
        · have hfull := hholds.collect_full hroom c
          simp [groupScan, hdot, hroom, hfull]

/-- The bytes a parser hands back when `buf` holds these characters before the
first round. -/
def extractFrom (octets : ℕ) (convert : Text → BitVec 8) (buf : List Char)
    (sourceString : Text) : Option (Fin octets → BitVec 8) :=
  let len := sourceString.length % 65536
  let start : Locals :=
    { cnt := 0
      cnt1 := 0
      buf := buf
      oct := List.replicate octets 0 }
  (extractLoop convert sourceString len 256 0 start).map fun locals index =>
    locals.oct.getD index 0

/-- A parser reads a text of at most 255 characters group by group, whatever
its buffer holds at first. -/
theorem extractFrom_eq_groupScan {sourceString : Text} {buf : List Char}
    (hbuf : buf.length = 5) (hlength : sourceString.length ≤ 255)
    (hoctets : octets ≤ 255) (hnul : '\x00' ∉ sourceString) :
    extractFrom octets convert buf sourceString =
      (groupScan octets convert sourceString [] []).map
        fun done (index : Fin octets) => (padded octets done).getD index 0 := by
  have hstart : Holds octets [] []
      { cnt := 0
        cnt1 := 0
        buf := buf
        oct := List.replicate octets 0 } := by
    constructor <;> simp [hbuf]
  have hloop := extractLoop_eq_groupScan convert hlength hoctets []
    sourceString [] [] _ rfl hstart List.not_mem_nil hnul 256 (by omega)
  have hsmall : sourceString.length % 65536 = sourceString.length := by omega
  have hmap := congrArg
    (Option.map fun (oct : List (BitVec 8)) (index : Fin octets) =>
      oct.getD index 0) hloop
  simp only [Option.map_map, List.length_nil] at hmap
  simp only [extractFrom, hsmall]
  exact hmap

theorem extractAddress_eq_groupScan {sourceString : Text}
    (hlength : sourceString.length ≤ 255) (hoctets : octets ≤ 255)
    (hnul : '\x00' ∉ sourceString) :
    extractAddress octets convert sourceString =
      (groupScan octets convert sourceString [] []).map
        fun done (index : Fin octets) => (padded octets done).getD index 0 :=
  extractFrom_eq_groupScan List.length_replicate hlength hoctets hnul

/-! ## Dotted texts -/

/-- A group of the text, read up to its dot. -/
theorem groupScan_dot {group rest : Text} {done : List (BitVec 8)}
    (hdot : '.' ∉ group) (hlength : group.length < 5)
    (hdone : done.length < octets) :
    groupScan octets convert (group ++ '.' :: rest) [] done =
      groupScan octets convert rest [] (done ++ [convert group]) := by
  have hprefix : ∀ read unread : Text, read ++ unread = group →
      groupScan octets convert (unread ++ '.' :: rest) read done =
        groupScan octets convert rest [] (done ++ [convert group]) := by
    intro read unread hread
    induction unread generalizing read with
    | nil =>
        rw [List.append_nil] at hread
        subst hread
        simp [groupScan, closeGroup, hlength, hdone]
    | cons c unread ih =>
        have hc : c ≠ '.' := by
          rintro rfl
          exact hdot (hread ▸ by simp)
        have hroom : read.length < 5 := by
          have := congrArg List.length hread
          simp only [List.length_append, List.length_cons] at this
          omega
        simp only [List.cons_append, groupScan, hc, if_false, hroom, if_true]
        rw [if_neg (by simp)]
        exact ih (read ++ [c]) (by simpa using hread)
  exact hprefix [] group rfl

/-- The last group of the text, read up to its end. -/
theorem groupScan_last {group : Text} {done : List (BitVec 8)}
    (hne : group ≠ []) (hdot : '.' ∉ group) (hlength : group.length < 5)
    (hdone : done.length < octets) :
    groupScan octets convert group [] done =
      some (done ++ [convert group]) := by
  have hprefix : ∀ read unread : Text, read ++ unread = group →
      unread ≠ [] →
      groupScan octets convert unread read done =
        some (done ++ [convert group]) := by
    intro read unread hread hunread
    induction unread generalizing read with
    | nil => exact absurd rfl hunread
    | cons c unread ih =>
        have hc : c ≠ '.' := by
          rintro rfl
          exact hdot (hread ▸ by simp)
        have hroom : read.length < 5 := by
          have := congrArg List.length hread
          simp only [List.length_append, List.length_cons] at this
          omega
        simp only [groupScan, hc, if_false, hroom, if_true]
        by_cases hend : unread = []
        · subst hend
          rw [if_pos rfl, hread, closeGroup, if_pos ⟨hlength, hdone⟩]
        · rw [if_neg hend]
          exact ih (read ++ [c]) (by simpa using hread) hend
  exact hprefix [] group rfl hne

/-- The usual text of an IP address. -/
def dottedQuad (address : Fin 4 → BitVec 8) : Text :=
  decimal (address 0).toNat ++ '.' :: (decimal (address 1).toNat ++
    '.' :: (decimal (address 2).toNat ++ '.' :: decimal (address 3).toNat))

theorem dot_not_mem_decimal (value : ℕ) : '.' ∉ decimal value := fun hmem =>
  absurd (isDigit_of_mem_decimal hmem) (by decide)

theorem decimal_byte_length (byte : BitVec 8) :
    (decimal byte.toNat).length ≤ 3 := by
  have hbyte : byte.toNat < 10 ^ 3 := by omega
  exact (Nat.length_toDigits_le_iff (by decide) (by decide)).mpr hbyte

/-- The parser reads a dotted quad as its four octets. -/
theorem extractIpAddress_dottedQuad (address : Fin 4 → BitVec 8) :
    extractIpAddress (dottedQuad address) = some address := by
  have hlength := fun index => decimal_byte_length (address index)
  have hshort : ∀ index, (decimal (address index).toNat).length < 5 :=
    fun index => by have := hlength index; omega
  have htext : (dottedQuad address).length ≤ 255 := by
    have h0 := hlength 0
    have h1 := hlength 1
    have h2 := hlength 2
    have h3 := hlength 3
    simp only [dottedQuad, List.length_append, List.length_cons]
    omega
  have hnul : '\x00' ∉ dottedQuad address := by
    have hdigits : ∀ value, '\x00' ∉ decimal value := fun value hmem =>
      absurd (isDigit_of_mem_decimal hmem) (by decide)
    simp [dottedQuad, hdigits]
  have hvalue : ∀ index,
      (atoi (decimal (address index).toNat)).setWidth 8 = address index := by
    intro index
    rw [atoi_decimal (by omega)]
    apply BitVec.eq_of_toNat_eq
    simp
  rw [extractIpAddress, extractAddress_eq_groupScan htext (by decide) hnul,
    dottedQuad, groupScan_dot (dot_not_mem_decimal _) (hshort 0) (by decide),
    groupScan_dot (dot_not_mem_decimal _) (hshort 1) (by simp),
    groupScan_dot (dot_not_mem_decimal _) (hshort 2) (by simp),
    groupScan_last (decimal_ne_nil _) (dot_not_mem_decimal _) (hshort 3)
      (by simp)]
  simp only [hvalue, Option.map_some, Option.some.injEq]
  funext index
  match index with
  | 0 => rfl
  | 1 => rfl
  | 2 => rfl
  | 3 => rfl

theorem dottedQuad_injective : Function.Injective dottedQuad := by
  intro left right heq
  have hread := congrArg extractIpAddress heq
  rw [extractIpAddress_dottedQuad, extractIpAddress_dottedQuad] at hread
  exact Option.some.inj hread

/-- The octets of a word, the highest first. -/
def ipOctets (ip : BitVec 32) : Fin 4 → BitVec 8
  | 0 => (ip >>> 24).setWidth 8
  | 1 => (ip >>> 16).setWidth 8
  | 2 => (ip >>> 8).setWidth 8
  | 3 => ip.setWidth 8

theorem ipWord_ipOctets (ip : BitVec 32) : ipWord (ipOctets ip) = ip := by
  ext index hindex
  interval_cases index <;> simp [ipWord, packOctets, ipOctets]

theorem ipOctets_ipWord (octets : Fin 4 → BitVec 8) :
    ipOctets (ipWord octets) = octets := by
  funext position
  match position with
  | 0 | 1 | 2 | 3 =>
      ext index hindex
      interval_cases index <;> simp [ipWord, packOctets, ipOctets]

theorem ipWord_injective : Function.Injective ipWord :=
  Function.LeftInverse.injective ipOctets_ipWord

/-- The number that a dotted quad stands for. -/
def quadWord (octets : Fin 4 → BitVec 8) : BitVec 32 :=
  BitVec.ofNat 32 ((octets 0).toNat * 2 ^ 24 + (octets 1).toNat * 2 ^ 16 +
    (octets 2).toNat * 2 ^ 8 + (octets 3).toNat)

theorem ipWord_eq_quadWord (octets : Fin 4 → BitVec 8) :
    ipWord octets = quadWord octets := by
  have hoctets : ipOctets (quadWord octets) = octets := by
    have h0 := (octets 0).isLt
    have h1 := (octets 1).isLt
    have h2 := (octets 2).isLt
    have h3 := (octets 3).isLt
    funext index
    apply BitVec.eq_of_toNat_eq
    match index with
    | 0 | 1 | 2 | 3 =>
        simp only [ipOctets, quadWord, BitVec.toNat_setWidth,
          BitVec.toNat_ushiftRight, BitVec.toNat_ofNat,
          Nat.shiftRight_eq_div_pow]
        omega
  rw [← ipWord_ipOctets (quadWord octets), hoctets]

theorem printIp_eq_dottedQuad (ip : BitVec 32) :
    printIp ip = dottedQuad (ipOctets ip) := by
  have hbyte : ∀ word : BitVec 32,
      (word &&& 0xFF).toNat = (word.setWidth 8).toNat := by
    intro word
    rw [BitVec.toNat_and, BitVec.toNat_setWidth]
    exact Nat.and_two_pow_sub_one_eq_mod _ 8
  simp only [printIp, hbyte, dottedQuad, ipOctets, BitVec.ushiftRight_zero]

/-- Exactly one word prints as a given quad. -/
theorem printIp_eq_iff (ip : BitVec 32) (octets : Fin 4 → BitVec 8) :
    printIp ip = dottedQuad octets ↔ ip = ipWord octets := by
  rw [printIp_eq_dottedQuad, dottedQuad_injective.eq_iff]
  constructor
  · rintro rfl
    exact (ipWord_ipOctets ip).symm
  · rintro rfl
    exact ipOctets_ipWord octets

end Songpark.Address

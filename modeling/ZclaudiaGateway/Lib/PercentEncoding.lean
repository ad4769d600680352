import Mathlib.Data.List.Basic

/-!
# Percent-encoded text

A text is read as pieces: characters, escapes `%XX`, and percent signs that start none. The bytes of neighbouring escapes are
UTF-8; what of them is no character breaks off where the encoding can no longer be continued, one break for each such stretch.
`decodeURIComponent` of ECMAScript fails on a break or a bare percent sign, `unquote` of Python keeps the percent sign and puts
the replacement character for a break.
-/

namespace PercentEncoding

/-- The value of a hexadecimal digit. -/
def hexDigit (c : Char) : Option Nat :=
  if '0' ≤ c ∧ c ≤ '9' then some (c.toNat - '0'.toNat)
  else if 'a' ≤ c ∧ c ≤ 'f' then some (c.toNat - 'a'.toNat + 10)
  else if 'A' ≤ c ∧ c ≤ 'F' then some (c.toNat - 'A'.toNat + 10)
  else none

/-! ## Pieces -/

inductive Piece where
  | char (c : Char)
  /-- The escape of a byte. -/
  | byte (b : Nat)
  /-- A percent sign that starts no escape. -/
  | bare
deriving DecidableEq

/-- The byte three characters are the escape of. -/
def escape (c a b : Char) : Option Nat :=
  match c, hexDigit a, hexDigit b with
  | '%', some x, some y => some (16 * x + y)
  | _, _, _ => none

/-- A character that starts no escape. -/
def single (c : Char) : Piece := if c = '%' then .bare else .char c

def pieces : List Char → List Piece
  | c :: a :: b :: rest =>
    match escape c a b with
    | some byte => .byte byte :: pieces rest
    | none => single c :: pieces (a :: b :: rest)
  | [c, a] => [single c, single a]
  | [c] => [single c]
  | [] => []

/-! ## UTF-8 -/

/-- A character some bytes of which have been read: how many are due, the code point so far, and the range of the next byte. -/
structure Pending where
  due : Nat
  code : Nat
  low : Nat
  high : Nat

/-- The first byte of a character: what it comes to, with `none` for a break, and what is pending after it. -/
def firstByte (b : Nat) : List (Option Char) × Option Pending :=
  if b < 0x80 then ([some (Char.ofNat b)], none)
  else if 0xC2 ≤ b ∧ b ≤ 0xDF then ([], some ⟨1, b - 0xC0, 0x80, 0xBF⟩)
  else if 0xE0 ≤ b ∧ b ≤ 0xEF then
    ([], some ⟨2, b - 0xE0, if b = 0xE0 then 0xA0 else 0x80, if b = 0xED then 0x9F else 0xBF⟩)
  else if 0xF0 ≤ b ∧ b ≤ 0xF4 then
    ([], some ⟨3, b - 0xF0, if b = 0xF0 then 0x90 else 0x80, if b = 0xF4 then 0x8F else 0xBF⟩)
  else ([none], none)

/-- The next byte. One that cannot continue what is pending breaks it off and is read as a first byte. -/
def nextByte (p : Option Pending) (b : Nat) : List (Option Char) × Option Pending :=
  match p with
  | none => firstByte b
  | some p =>
    if p.low ≤ b ∧ b ≤ p.high then
      let code := p.code * 64 + (b - 0x80)
      if p.due ≤ 1 then ([some (Char.ofNat code)], none) else ([], some ⟨p.due - 1, code, 0x80, 0xBF⟩)
    else (none :: (firstByte b).1, (firstByte b).2)

/-- What is pending breaks off. -/
def breakOff (p : Option Pending) : List (Option Char) := if p.isSome then [none] else []

/-- The characters of the pieces, `none` for every break. -/
def decode : Option Pending → List Piece → List (Option Char)
  | p, [] => breakOff p
  | p, .char c :: rest => breakOff p ++ some c :: decode none rest
  | p, .bare :: rest => breakOff p ++ some '%' :: decode none rest
  | p, .byte b :: rest => (nextByte p b).1 ++ decode (nextByte p b).2 rest

/-! ## The two decoders -/

/-- `decodeURIComponent`, `none` where it throws. -/
def decodeURIComponent (s : String) : Option String :=
  if .bare ∈ pieces s.toList then none
  else ((decode none (pieces s.toList)).mapM id).map String.ofList

/-- `urllib.parse.unquote`. -/
def unquote (s : String) : String :=
  String.ofList ((decode none (pieces s.toList)).map (fun c => c.getD '\uFFFD'))

/-- The characters that `url.parse` does not leave in a URL. -/
def AUTO_ESCAPED : List Nat := [0x09, 0x0A, 0x0D, 0x20, 0x22, 0x27, 0x3C, 0x3E, 0x5C, 0x5E, 0x60, 0x7B, 0x7C, 0x7D]

def upperHexDigit (n : Nat) : Char := Char.ofNat (if n < 10 then 0x30 + n else 0x37 + n)

def autoEscapeChar (c : Char) : List Char :=
  if c.toNat ∈ AUTO_ESCAPED then ['%', upperHexDigit (c.toNat / 16), upperHexDigit (c.toNat % 16)] else [c]

/-- `autoEscapeStr`. -/
def autoEscape (l : List Char) : List Char := l.flatMap autoEscapeChar

/-! ## Text without escapes -/

theorem escape_plain {c : Char} (h : c ≠ '%') (a b : Char) : escape c a b = none := by
  unfold escape
  split
  · exact absurd rfl h
  · rfl

theorem single_plain {c : Char} (h : c ≠ '%') : single c = .char c := if_neg h

theorem pieces_plain {l : List Char} (h : '%' ∉ l) : pieces l = l.map .char := by
  induction l using pieces.induct with
  | case1 c a b rest byte hbyte ih =>
    rw [escape_plain (fun hc => h (by simp [hc]))] at hbyte
    cases hbyte
  | case2 c a b rest hbyte ih =>
    rw [List.mem_cons, not_or] at h
    rw [pieces, hbyte, List.map_cons, ← ih h.2, single_plain (Ne.symm h.1)]
  | case3 c a =>
    rw [pieces, single_plain (fun hc => h (by simp [hc])), single_plain (fun ha => h (by simp [ha]))]
    rfl
  | case4 c =>
    rw [pieces, single_plain (fun hc => h (by simp [hc]))]
    rfl
  | case5 => rfl

theorem pieces_cons_plain {c : Char} (h : c ≠ '%') (l : List Char) : pieces (c :: l) = .char c :: pieces l := by
  match l with
  | [] => rw [pieces, single_plain h, pieces]
  | [a] => rw [pieces, single_plain h, pieces]
  | a :: b :: rest => rw [pieces, escape_plain h, single_plain h]

theorem decode_chars (l : List Char) : decode none (l.map .char) = l.map some := by
  induction l with
  | nil => rfl
  | cons c rest ih =>
    rw [List.map_cons, decode, ih]
    rfl

theorem mapM_some {α : Type} (l : List α) : (l.map some).mapM id = some l := by
  induction l with
  | nil => rfl
  | cons a l ih =>
    rw [List.map_cons, List.mapM_cons, ih]
    rfl

theorem decodeURIComponent_plain {s : String} (h : '%' ∉ s.toList) : decodeURIComponent s = some s := by
  unfold decodeURIComponent
  rw [pieces_plain h, decode_chars, if_neg (by simp), mapM_some, Option.map_some, String.ofList_toList]

/-- A character that starts no escape stays in front. -/
theorem unquote_cons_plain {c : Char} (h : c ≠ '%') (l : List Char) :
    unquote (String.ofList (c :: l)) = String.ofList [c] ++ unquote (String.ofList l) := by
  unfold unquote
  rw [String.toList_ofList, String.toList_ofList, pieces_cons_plain h, ← String.ofList_append]
  rfl

/-! ## Text with escapes -/

theorem firstByte_length (b : Nat) : (firstByte b).1.length + (firstByte b).2.toList.length = 1 := by
  unfold firstByte
  split
  · rfl
  · split
    · rfl
    · split
      · rfl
      · split <;> rfl

theorem nextByte_length (p : Option Pending) (b : Nat) :
    (nextByte p b).1.length + (nextByte p b).2.toList.length ≤ 1 + p.toList.length := by
  have hfirst := firstByte_length b
  rcases p with _ | p
  · simp only [nextByte, Option.toList_none, List.length_nil]
    omega
  · simp only [nextByte, Option.toList_some, List.length_singleton]
    split
    · split <;> simp
    · simp only [List.length_cons]
      omega

/-- Every piece comes to at most one character. -/
theorem decode_length (p : Option Pending) (l : List Piece) :
    (decode p l).length ≤ l.length + p.toList.length := by
  have hbreak (p : Option Pending) : (breakOff p).length = p.toList.length := by cases p <;> rfl
  induction l generalizing p with
  | nil => exact Nat.le_of_eq (by rw [decode, hbreak, List.length_nil, Nat.zero_add])
  | cons x rest ih =>
    cases x with
    | char c =>
      have hrest := ih none
      simp only [decode, List.length_append, List.length_cons, hbreak, Option.toList_none, List.length_nil] at hrest ⊢
      omega
    | bare =>
      have hrest := ih none
      simp only [decode, List.length_append, List.length_cons, hbreak, Option.toList_none, List.length_nil] at hrest ⊢
      omega
    | byte b =>
      have hrest := ih (nextByte p b).2
      have hnext := nextByte_length p b
      simp only [decode, List.length_append, List.length_cons]
      omega

theorem pieces_length (l : List Char) : (pieces l).length ≤ l.length := by
  induction l using pieces.induct with
  | case1 c a b rest byte hbyte ih =>
    rw [pieces, hbyte]
    simp only [List.length_cons]
    omega
  | case2 c a b rest hbyte ih =>
    rw [pieces, hbyte]
    simp only [List.length_cons] at ih ⊢
    omega
  | case3 c a => exact Nat.le_refl _
  | case4 c => exact Nat.le_refl _
  | case5 => exact Nat.le_refl _

theorem single_bare {c : Char} (h : c = '%') : single c = .bare := if_pos h

/-- A text whose percent signs all start escapes has fewer pieces than characters, if it has any. -/
theorem pieces_length_lt {l : List Char} (h : '%' ∈ l) (hbare : .bare ∉ pieces l) : (pieces l).length < l.length := by
  induction l using pieces.induct with
  | case1 c a b rest byte hbyte ih =>
    have hrest := pieces_length rest
    rw [pieces, hbyte]
    simp only [List.length_cons]
    omega
  | case2 c a b rest hbyte ih =>
    rw [pieces, hbyte, List.mem_cons, not_or] at hbare
    have hc : '%' ≠ c := fun hc => hbare.1 (single_bare hc.symm).symm
    have hrest := ih ((List.mem_cons.mp h).resolve_left hc) hbare.2
    rw [pieces, hbyte]
    simp only [List.length_cons] at hrest ⊢
    omega
  | case3 c a =>
    rcases List.mem_cons.mp h with hc | ha
    · exact absurd (by simp [pieces, single_bare hc.symm]) hbare
    · exact absurd (by simp [pieces, single_bare (List.mem_singleton.mp ha).symm]) hbare
  | case4 c => exact absurd (by simp [pieces, single_bare (List.mem_singleton.mp h).symm]) hbare
  | case5 => cases h

theorem mapM_id_length {α : Type} {l : List (Option α)} {l' : List α} (h : l.mapM id = some l') :
    l'.length = l.length := by
  induction l generalizing l' with
  | nil =>
    cases h
    rfl
  | cons a l ih =>
    rw [List.mapM_cons] at h
    rcases a with _ | a
    · cases h
    · rcases hl : l.mapM id with _ | l''
      · rw [hl] at h
        cases h
      · rw [hl] at h
        cases h
        rw [List.length_cons, List.length_cons, ih hl]

/-- Decoding an escape makes the text shorter. -/
theorem decodeURIComponent_length_lt {s t : String} (h : '%' ∈ s.toList) (hd : decodeURIComponent s = some t) :
    t.toList.length < s.toList.length := by
  unfold decodeURIComponent at hd
  split at hd
  · cases hd
  · rename_i hbare
    obtain ⟨cs, hcs, rfl⟩ := Option.map_eq_some_iff.mp hd
    have hlength := mapM_id_length hcs
    have hdecoded := decode_length none (pieces s.toList)
    have hpieces := pieces_length_lt h hbare
    rw [String.toList_ofList]
    simp only [Option.toList_none, List.length_nil] at hdecoded
    omega

/-! ## Escapes that are put in -/

theorem hexDigit_upperHexDigit {n : Nat} (h : n < 16) : hexDigit (upperHexDigit n) = some n := by
  have hall : ∀ n < 16, hexDigit (upperHexDigit n) = some n := by decide
  exact hall n h

theorem hexDigit_of_escaped {c : Char} (h : c.toNat ∈ AUTO_ESCAPED) : hexDigit c = none := by
  have hall : ∀ n ∈ AUTO_ESCAPED, hexDigit (Char.ofNat n) = none := by decide
  rw [← Char.ofNat_toNat c]
  exact hall _ h

theorem autoEscapeChar_percent : autoEscapeChar '%' = ['%'] := rfl

/-- The piece that an escaped character is. -/
def Piece.autoEscaped : Piece → Piece
  | .char c => if c.toNat ∈ AUTO_ESCAPED then .byte c.toNat else .char c
  | p => p

theorem pieces_percent {l : List Char} (h : ∀ a b rest, l = a :: b :: rest → escape '%' a b = none) :
    pieces ('%' :: l) = .bare :: pieces l := by
  match l with
  | [] => rfl
  | [a] => rfl
  | a :: b :: rest =>
    rw [pieces, h a b rest rfl]
    rfl

theorem pieces_escapeChar {c : Char} (h : c ≠ '%') (l : List Char) :
    pieces (autoEscapeChar c ++ l) = (single c).autoEscaped :: pieces l := by
  rw [single_plain h, autoEscapeChar, Piece.autoEscaped]
  split
  · rename_i hc
    have hlt : ∀ n ∈ AUTO_ESCAPED, n < 256 := by decide
    have hbound := hlt _ hc
    have hbyte : escape '%' (upperHexDigit (c.toNat / 16)) (upperHexDigit (c.toNat % 16)) = some c.toNat := by
      unfold escape
      rw [hexDigit_upperHexDigit (by omega), hexDigit_upperHexDigit (by omega)]
      exact congrArg some (by omega)
    rw [List.cons_append, List.cons_append, List.cons_append, List.nil_append, pieces, hbyte]
  · exact pieces_cons_plain h l

/-- A character that starts an escaped text is one of before, or a percent sign. -/
theorem autoEscape_cons (a : Char) (l : List Char) :
    ∃ rest, autoEscape (a :: l) = a :: autoEscape l ∨ hexDigit a = none ∧ autoEscape (a :: l) = '%' :: rest := by
  rw [autoEscape, List.flatMap_cons, autoEscapeChar]
  split
  · rename_i ha
    exact ⟨_, Or.inr ⟨hexDigit_of_escaped ha, rfl⟩⟩
  · exact ⟨[], Or.inl rfl⟩

theorem escape_none_of_hexDigit {a b : Char} (h : hexDigit a = none ∨ hexDigit b = none) : escape '%' a b = none := by
  unfold escape
  split
  · rename_i ha hb
    rcases h with h | h
    · rw [h] at ha
      cases ha
    · rw [h] at hb
      cases hb
  · rfl

theorem hexDigit_of_escape {a b : Char} (h : escape '%' a b = none) : hexDigit a = none ∨ hexDigit b = none := by
  rcases ha : hexDigit a with _ | x
  · exact Or.inl rfl
  · rcases hb : hexDigit b with _ | y
    · exact Or.inr rfl
    · simp [escape, ha, hb] at h

/-- The characters that follow a bare percent sign are no digits of an escape after the others are escaped. -/
theorem escape_autoEscape {a b : Char} {l : List Char} (h : escape '%' a b = none) :
    ∀ a' b' rest, autoEscape (a :: b :: l) = a' :: b' :: rest → escape '%' a' b' = none := by
  intro a' b' rest he
  have hpercent : hexDigit '%' = none := by decide
  obtain ⟨l1, h1 | ⟨-, h1⟩⟩ := autoEscape_cons a (b :: l)
  · obtain ⟨l2, h2 | ⟨-, h2⟩⟩ := autoEscape_cons b l
    · rw [h1, h2, List.cons.injEq, List.cons.injEq] at he
      rw [← he.1, ← he.2.1]
      exact h
    · rw [h1, h2, List.cons.injEq, List.cons.injEq] at he
      rw [← he.2.1]
      exact escape_none_of_hexDigit (Or.inr hpercent)
  · rw [h1, List.cons.injEq] at he
    rw [← he.1]
    exact escape_none_of_hexDigit (Or.inl hpercent)

theorem pieces_autoEscape (l : List Char) : pieces (autoEscape l) = (pieces l).map Piece.autoEscaped := by
  induction l using pieces.induct with
  | case1 c a b rest byte hbyte ih =>
    have hc : c = '%' := by
      by_contra hc
      rw [escape_plain hc] at hbyte
      cases hbyte
    subst hc
    have hkept {d : Char} (hd : hexDigit d ≠ none) : autoEscapeChar d = [d] :=
      if_neg fun he => hd (hexDigit_of_escaped he)
    have ha : hexDigit a ≠ none := fun ha => by
      rw [escape_none_of_hexDigit (Or.inl ha)] at hbyte
      cases hbyte
    have hb : hexDigit b ≠ none := fun hb => by
      rw [escape_none_of_hexDigit (Or.inr hb)] at hbyte
      cases hbyte
    have hcons : autoEscape ('%' :: a :: b :: rest) = '%' :: a :: b :: autoEscape rest := by
      simp only [autoEscape, List.flatMap_cons, autoEscapeChar_percent, hkept ha, hkept hb, List.cons_append, List.nil_append]
    rw [hcons, pieces, hbyte, pieces, hbyte, List.map_cons, ih]
    rfl
  | case2 c a b rest hbyte ih =>
    rw [pieces, hbyte, List.map_cons, ← ih]
    by_cases hc : c = '%'
    · subst hc
      have hcons : autoEscape ('%' :: a :: b :: rest) = '%' :: autoEscape (a :: b :: rest) := rfl
      rw [hcons, pieces_percent (escape_autoEscape hbyte)]
      rfl
    · exact pieces_escapeChar hc _
  | case3 c a =>
    have hlast : pieces (autoEscape [a]) = [(single a).autoEscaped] := by
      by_cases ha : a = '%'
      · subst ha
        rfl
      · exact pieces_escapeChar ha []
    rw [pieces, List.map_cons, List.map_cons, List.map_nil, ← hlast]
    by_cases hc : c = '%'
    · subst hc
      have hcons : autoEscape ['%', a] = '%' :: autoEscape [a] := rfl
      rw [hcons, pieces_percent ?_]
      · rfl
      · intro a' b' rest he
        obtain ⟨l1, h1 | ⟨-, h1⟩⟩ := autoEscape_cons a []
        · rw [h1] at he
          cases he
        · rw [h1, List.cons.injEq] at he
          rw [← he.1]
          exact escape_none_of_hexDigit (Or.inl (by decide))
    · exact pieces_escapeChar hc _
  | case4 c =>
    by_cases hc : c = '%'
    · subst hc
      rfl
    · exact pieces_escapeChar hc []
  | case5 => rfl

/-- A character that is pending is due a byte beyond ASCII. -/
def Continues (p : Option Pending) : Prop := ∀ q, p = some q → 0x80 ≤ q.low

theorem firstByte_continues (b : Nat) : Continues (firstByte b).2 := by
  intro q hq
  unfold firstByte at hq
  repeat' split at hq
  all_goals cases hq
  all_goals exact Nat.le_of_ble_eq_true rfl

theorem nextByte_continues (p : Option Pending) (b : Nat) : Continues (nextByte p b).2 := by
  unfold nextByte
  split
  · exact firstByte_continues b
  · split
    · dsimp only
      split
      · intro q hq
        cases hq
      · intro q hq
        obtain rfl := Option.some.inj hq
        exact Nat.le_refl _
    · exact firstByte_continues b

/-- An ASCII byte is read as its character. -/
theorem nextByte_ascii {p : Option Pending} (h : Continues p) {b : Nat} (hb : b < 0x80) :
    nextByte p b = (breakOff p ++ [some (Char.ofNat b)], none) := by
  rcases p with _ | q
  · simp [nextByte, firstByte, breakOff, hb]
  · have hlow := h q rfl
    simp [nextByte, firstByte, breakOff, hb, show ¬ (q.low ≤ b ∧ b ≤ q.high) by omega]

theorem decode_autoEscaped (p : Option Pending) (h : Continues p) (l : List Piece) :
    decode p (l.map Piece.autoEscaped) = decode p l := by
  have hnone : Continues none := fun q hq => by cases hq
  induction l generalizing p with
  | nil => rfl
  | cons x rest ih =>
    cases x with
    | char c =>
      rw [List.map_cons, Piece.autoEscaped]
      split
      · rename_i hc
        have hlt : ∀ n ∈ AUTO_ESCAPED, n < 0x80 := by decide
        have hbyte (l : List Piece) : decode p (.byte c.toNat :: l) = breakOff p ++ some c :: decode none l := by
          simp [decode, nextByte_ascii h (hlt _ hc)]
        rw [hbyte, ih none hnone, decode]
      · rw [decode, decode, ih none hnone]
    | bare => exact congrArg (fun cs => breakOff p ++ some '%' :: cs) (ih none hnone)
    | byte b => exact congrArg (fun cs => (nextByte p b).1 ++ cs) (ih _ (nextByte_continues p b))

/-- `decodeURIComponent` takes away what `url.parse` has put in. -/
theorem decodeURIComponent_autoEscape (l : List Char) :
    decodeURIComponent (String.ofList (autoEscape l)) = decodeURIComponent (String.ofList l) := by
  have hbare : Piece.bare ∈ (pieces l).map Piece.autoEscaped ↔ .bare ∈ pieces l := by
    rw [List.mem_map]
    constructor
    · rintro ⟨x, hx, he⟩
      cases x with
      | char c =>
        rw [Piece.autoEscaped] at he
        split at he <;> cases he
      | bare => exact hx
      | byte b => cases he
    · exact fun hx => ⟨.bare, hx, rfl⟩
  unfold decodeURIComponent
  rw [String.toList_ofList, String.toList_ofList, pieces_autoEscape, decode_autoEscaped none (fun q hq => by cases hq)]
  by_cases hb : .bare ∈ pieces l
  · rw [if_pos hb, if_pos (hbare.mpr hb)]
  · rw [if_neg hb, if_neg (hbare.not.mpr hb)]

end PercentEncoding

import Hamlet.Lib.RustStr

/-!
# Hosts of URIs

The three kinds of host in an authority: registered names, IPv4 addresses and IPv6 literals in
brackets.
-/

namespace UriHost

open RustStr

/-- `unreserved`, `sub-delims` and the sign of percent encoding. -/
def isRegNameChar (c : Char) : Bool := c.isAlphanum || c ∈ "-._~!$&'()*+,;=%".toList

/-- A non-empty registered name. The text of an IPv4 address is one. -/
def IsRegName (host : String) : Prop := host ≠ "" ∧ ∀ c ∈ host.toList, isRegNameChar c

instance (host : String) : Decidable (IsRegName host) :=
  decidable_of_iff (host ≠ "" ∧ host.toList.all isRegNameChar) (by simp [IsRegName])

/-! ### IPv6 literals -/

def isHexDigit (c : Char) : Bool := c.isDigit || c ∈ "abcdefABCDEF".toList

/-- One group of an IPv6 address: up to four hexadecimal digits. -/
def isHexGroup (piece : List Char) : Bool :=
  piece ≠ [] && piece.length ≤ 4 && piece.all isHexDigit

/-- A decimal number up to 255 without leading zeros. -/
def isOctet (piece : List Char) : Bool :=
  piece ≠ [] && piece.all Char.isDigit && Nat.ofDigitChars 10 piece 0 ≤ 255 &&
    (piece.length = 1 || piece.head? ≠ some '0')

def isIpv4 (text : List Char) : Bool :=
  (text.splitOn '.').length = 4 && (text.splitOn '.').all isOctet

/-- What stands between colons; nothing at all if the text is empty. -/
def groups (text : String) : List (List Char) :=
  if text = "" then [] else text.toList.splitOn ':'

/-- Only the last group may be an IPv4 address. -/
def areGroups (pieces : List (List Char)) : Bool :=
  pieces.dropLast.all isHexGroup && pieces.getLast?.all fun last => isHexGroup last || isIpv4 last

/-- The number of 16-bit groups; an IPv4 address stands for two. -/
def groupCount (pieces : List (List Char)) : Nat :=
  pieces.length + if pieces.getLast?.any isIpv4 then 1 else 0

/-- The text of an IPv6 address: eight groups, or fewer around one `::`. -/
def isIpv6 (text : String) : Bool :=
  match splitOnce text "::" with
  | none => areGroups (groups text) && groupCount (groups text) = 8
  | some (before, after) =>
    (groups before).all isHexGroup && areGroups (groups after) &&
      (groups before).length + groupCount (groups after) ≤ 7

example : isIpv6 "::" ∧ isIpv6 "fe80::1" ∧ isIpv6 "1:2:3:4:5:6:7:8" ∧ isIpv6 "::ffff:192.0.2.1" ∧
    ¬isIpv6 "1:2:3" ∧ ¬isIpv6 "1::2::3" ∧ ¬isIpv6 "1:2:3:4:5:6:7::8" ∧ ¬isIpv6 ":1::2" := by
  decide

/-- An IPv6 literal as it stands in a URI. -/
def bracketed (v6 : String) : String := "[" ++ v6 ++ "]"

def IsBracketed (host : String) : Prop := ∃ v6, isIpv6 v6 ∧ host = bracketed v6

/-- The optional port after a host. -/
def portSuffix : Option String → String
  | none => ""
  | some digits => ":" ++ digits

/-! ### The characters of a literal -/

theorem mem_splitOn (sep : Char) {c : Char} {text : List Char} (member : c ∈ text) :
    c = sep ∨ ∃ piece ∈ text.splitOn sep, c ∈ piece := by
  induction text with
  | nil => cases member
  | cons d text ih =>
    rw [List.splitOn_cons_eq_if_modifyHead]
    split
    next isSep =>
      rcases List.mem_cons.mp member with rfl | later
      · exact .inl (by simpa using isSep)
      · rcases ih later with same | ⟨piece, split, inPiece⟩
        · exact .inl same
        · exact .inr ⟨piece, List.mem_cons_of_mem _ split, inPiece⟩
    next =>
      -- `d` goes in front of the first piece
      obtain ⟨first, pieces, shape⟩ := List.exists_cons_of_ne_nil (List.splitOn_ne_nil sep text)
      rw [shape] at ih ⊢
      rcases List.mem_cons.mp member with rfl | later
      · exact .inr ⟨c :: first, by simp, by simp⟩
      · rcases ih later with same | ⟨piece, split, inPiece⟩
        · exact .inl same
        · right
          rcases List.mem_cons.mp split with rfl | other
          · exact ⟨d :: piece, by simp, List.mem_cons_of_mem d inPiece⟩
          · exact ⟨piece, by simp [other], inPiece⟩

def isLiteralChar (c : Char) : Bool := isHexDigit c || c = '.' || c = ':'

theorem isLiteralChar_of_isHexDigit {c : Char} (hex : isHexDigit c) : isLiteralChar c := by
  simp [isLiteralChar, hex]

theorem isLiteralChar_of_isHexGroup {piece : List Char} (hex : isHexGroup piece) {c : Char}
    (member : c ∈ piece) : isLiteralChar c := by
  simp only [isHexGroup, Bool.and_eq_true, List.all_eq_true] at hex
  exact isLiteralChar_of_isHexDigit (hex.2 c member)

theorem isLiteralChar_of_isIpv4 {piece : List Char} (v4 : isIpv4 piece) {c : Char}
    (member : c ∈ piece) : isLiteralChar c := by
  simp only [isIpv4, Bool.and_eq_true, List.all_eq_true] at v4
  rcases mem_splitOn '.' member with rfl | ⟨octet, split, inOctet⟩
  · decide
  · have digits := v4.2 octet split
    simp only [isOctet, Bool.and_eq_true, List.all_eq_true] at digits
    apply isLiteralChar_of_isHexDigit
    simp [isHexDigit, digits.1.1.2 c inOctet]

theorem isLiteralChar_of_groups {text : String}
    (pieces : ∀ piece ∈ groups text, isHexGroup piece ∨ isIpv4 piece) {c : Char}
    (member : c ∈ text.toList) : isLiteralChar c := by
  have nonempty : text ≠ "" := by
    rintro rfl
    cases member
  rw [groups, if_neg nonempty] at pieces
  rcases mem_splitOn ':' member with rfl | ⟨piece, split, inPiece⟩
  · decide
  · rcases pieces piece split with hex | v4
    · exact isLiteralChar_of_isHexGroup hex inPiece
    · exact isLiteralChar_of_isIpv4 v4 inPiece

theorem hex_or_ipv4_of_areGroups {pieces : List (List Char)} (valid : areGroups pieces) :
    ∀ piece ∈ pieces, isHexGroup piece ∨ isIpv4 piece := by
  intro piece member
  simp only [areGroups, Bool.and_eq_true, List.all_eq_true] at valid
  rcases List.eq_nil_or_concat pieces with rfl | ⟨init, last, rfl⟩
  · cases member
  · rw [List.concat_eq_append] at member valid
    rcases List.mem_append.mp member with early | late
    · exact .inl (valid.1 piece (by simpa using early))
    · cases List.mem_singleton.mp late
      simpa using valid.2

theorem isLiteralChar_of_isIpv6 {text : String} (v6 : isIpv6 text) :
    ∀ c ∈ text.toList, isLiteralChar c := by
  intro c member
  unfold isIpv6 at v6
  split at v6
  next =>
    rw [Bool.and_eq_true] at v6
    exact isLiteralChar_of_groups (hex_or_ipv4_of_areGroups v6.1) member
  next before after split =>
    simp only [Bool.and_eq_true, List.all_eq_true] at v6
    rw [splitOnce_spec split, String.toList_append, String.toList_append, List.mem_append,
      List.mem_append] at member
    rcases member with (front | colon) | back
    · exact isLiteralChar_of_groups (fun piece split => .inl (v6.1.1 piece split)) front
    · have same : c = ':' := by simpa using colon
      rw [same]
      decide
    · exact isLiteralChar_of_groups (hex_or_ipv4_of_areGroups v6.1.2) back

theorem colon_mem_of_isIpv6 {text : String} (v6 : isIpv6 text) : ':' ∈ text.toList := by
  unfold isIpv6 at v6
  split at v6
  next =>
    -- without a colon there is one group, which counts for two at most
    by_contra absent
    rw [Bool.and_eq_true, decide_eq_true_eq] at v6
    have few : groupCount (groups text) ≤ 2 := by
      unfold groupCount groups
      split
      · simp
      · rw [List.splitOn_eq_singleton absent]
        simp only [List.length_singleton]
        split <;> omega
    omega
  next before after split =>
    rw [splitOnce_spec split]
    simp

/-! ### Visible characters -/

/-- ASCII without blanks and control characters. -/
def IsVisibleAscii (c : Char) : Prop := 32 < c.toNat ∧ c.toNat < 127

theorem isVisibleAscii_of_isAlphanum {c : Char} (alphanum : c.isAlphanum) : IsVisibleAscii c := by
  -- upper case, lower case, digits
  have ranges : c.isAlphanum = (decide (c.val ≥ 'A'.val ∧ c.val ≤ 'Z'.val) ||
      (decide (c.val ≥ 'a'.val) && decide (c.val ≤ 'z'.val)) ||
      (decide (c.val ≥ '0'.val) && decide (c.val ≤ '9'.val))) := rfl
  have code : c.toNat = c.val.toNat := rfl
  rw [ranges] at alphanum
  simp only [Bool.or_eq_true, Bool.and_eq_true, decide_eq_true_eq, ge_iff_le,
    UInt32.le_iff_toNat_le, Char.reduceVal, UInt32.reduceToNat] at alphanum
  unfold IsVisibleAscii
  omega

instance (c : Char) : Decidable (IsVisibleAscii c) :=
  inferInstanceAs (Decidable (32 < c.toNat ∧ c.toNat < 127))

theorem isVisibleAscii_of_isDigit {c : Char} (digit : c.isDigit) : IsVisibleAscii c := by
  apply isVisibleAscii_of_isAlphanum
  have either : c.isAlphanum = (c.isAlpha || c.isDigit) := rfl
  rw [either, digit, Bool.or_true]

theorem isVisibleAscii_of_isRegNameChar {c : Char} (regName : isRegNameChar c) : IsVisibleAscii c := by
  simp only [isRegNameChar, Bool.or_eq_true, decide_eq_true_eq] at regName
  rcases regName with alphanum | other
  · exact isVisibleAscii_of_isAlphanum alphanum
  · have visible : "-._~!$&'()*+,;=%".toList.all fun d => IsVisibleAscii d := by decide
    simpa using List.all_eq_true.mp visible c other

theorem isVisibleAscii_of_isLiteralChar {c : Char} (literal : isLiteralChar c) : IsVisibleAscii c := by
  simp only [isLiteralChar, isHexDigit, Bool.or_eq_true, decide_eq_true_eq] at literal
  rcases literal with ((digit | letter) | rfl) | rfl
  · exact isVisibleAscii_of_isDigit digit
  · have visible : "abcdefABCDEF".toList.all fun d => IsVisibleAscii d := by decide
    simpa using List.all_eq_true.mp visible c letter
  · decide
  · decide

theorem isVisibleAscii_of_isBracketed {host : String} (inBrackets : IsBracketed host) :
    ∀ c ∈ host.toList, IsVisibleAscii c := by
  obtain ⟨v6, literal, rfl⟩ := inBrackets
  intro c member
  simp only [bracketed, String.toList_append, List.mem_append] at member
  rcases member with (opening | inside) | closing
  · cases List.mem_singleton.mp opening
    decide
  · exact isVisibleAscii_of_isLiteralChar (isLiteralChar_of_isIpv6 literal c inside)
  · cases List.mem_singleton.mp closing
    decide

theorem isVisibleAscii_of_portSuffix {port : Option String}
    (digits : ∀ text ∈ port, ∀ c ∈ text.toList, c.isDigit) :
    ∀ c ∈ (portSuffix port).toList, IsVisibleAscii c := by
  intro c member
  cases port with
  | none => cases member
  | some text =>
    rw [portSuffix, String.toList_append, List.mem_append] at member
    rcases member with colon | digit
    · cases List.mem_singleton.mp colon
      decide
    · exact isVisibleAscii_of_isDigit (digits text rfl c digit)

end UriHost

import Mathlib.Data.List.DropRight

/-!
# Rust text operations

The `str` methods and integer parsers of the Rust standard library that string
handling code leans on, over the characters of a Lean `String`.
-/

namespace RustStr

/-- `str::strip_suffix`. -/
def stripSuffix (s suffix : String) : Option String :=
  (s.toList.dropSuffix? suffix.toList).map String.ofList

theorem stripSuffix_iff (s suffix t : String) :
    stripSuffix s suffix = some t ↔ s = t ++ suffix := by
  simp only [stripSuffix, Option.map_eq_some_iff, List.dropSuffix?_eq_some_iff, beq_iff_eq]
  constructor
  · rintro ⟨front, ⟨back, split, rfl⟩, rfl⟩
    rw [← String.toList_inj, String.toList_append, String.toList_ofList, split]
  · rintro rfl
    exact ⟨t.toList, ⟨suffix.toList, String.toList_append, rfl⟩, String.ofList_toList⟩

/-- `char::is_whitespace`: the Unicode `White_Space` property. -/
def isWhitespace (c : Char) : Bool :=
  let n := c.toNat
  (0x9 ≤ n && n ≤ 0xD) || n == 0x20 || n == 0x85 || n == 0xA0 || n == 0x1680 ||
    (0x2000 ≤ n && n ≤ 0x200A) || n == 0x2028 || n == 0x2029 || n == 0x202F ||
    n == 0x205F || n == 0x3000

/-- `str::trim`. -/
def trim (s : String) : String :=
  String.ofList ((s.toList.dropWhile isWhitespace).rdropWhile isWhitespace)

/-- `str::eq_ignore_ascii_case`. `Char.toLower` changes ASCII letters only. -/
def eqIgnoreAsciiCase (a b : String) : Bool :=
  a.toList.map Char.toLower == b.toList.map Char.toLower

/-- The digits that the unsigned `FromStr` parsers read: one leading `+` is skipped. -/
def unsignedDigits : List Char → List Char
  | '+' :: rest => rest
  | cs => cs

/-- The value of a decimal text accepted by the unsigned `FromStr` parsers, before
the range check. There is at least one digit and nothing else, not even blanks. -/
def parseDecimal (s : String) : Option Nat :=
  let digits := unsignedDigits s.toList
  if digits ≠ [] ∧ digits.all Char.isDigit then
    some (digits.foldl (fun n c => 10 * n + (c.toNat - '0'.toNat)) 0)
  else none

/-- `str::parse::<u16>`. -/
def parseU16 (s : String) : Option UInt16 :=
  (parseDecimal s).bind fun n =>
    if h : n < UInt16.size then some (UInt16.ofNatLT n h) else none

/-- `str::parse::<u32>`. -/
def parseU32 (s : String) : Option UInt32 :=
  (parseDecimal s).bind fun n =>
    if h : n < UInt32.size then some (UInt32.ofNatLT n h) else none

example : parseU16 "+08883" = some 8883 ∧ parseU16 "65536" = none ∧ parseU16 " 1883" = none := by
  decide

/-- At least one decimal digit and nothing else. -/
def IsDigits (s : String) : Prop := s ≠ "" ∧ ∀ c ∈ s.toList, c.isDigit

instance (s : String) : Decidable (IsDigits s) :=
  decidable_of_iff (s ≠ "" ∧ s.toList.all Char.isDigit) (by simp [IsDigits])

def decimalValue (s : String) : Nat := Nat.ofDigitChars 10 s.toList 0

theorem isDigits_toString (n : Nat) : IsDigits (toString n) := by
  constructor
  · intro empty
    have digits := congrArg String.toList empty
    rw [Nat.toString_eq_repr, Nat.toList_repr] at digits
    exact Nat.toDigits_ne_nil digits
  · intro c member
    rw [Nat.toString_eq_repr, Nat.toList_repr] at member
    exact Nat.isDigit_of_mem_toDigits (by decide) (by decide) member

theorem decimalValue_toString (n : Nat) : decimalValue (toString n) = n := by
  rw [decimalValue, Nat.toString_eq_repr, Nat.toList_repr]
  exact Nat.ofDigitChars_toDigits (by decide) (by decide)

theorem unsignedDigits_cases (cs : List Char) :
    cs = unsignedDigits cs ∨ cs = '+' :: unsignedDigits cs := by
  unfold unsignedDigits
  split
  · exact .inr rfl
  · exact .inl rfl

theorem unsignedDigits_of_isDigit {cs : List Char} (digits : ∀ c ∈ cs, c.isDigit) :
    unsignedDigits cs = cs := by
  unfold unsignedDigits
  split
  next rest => exact absurd (digits '+' (by simp)) (by decide)
  next => rfl

theorem parseDecimal_eq_some_iff (s : String) (n : Nat) :
    parseDecimal s = some n ↔
      ∃ digits, (s = digits ∨ s = "+" ++ digits) ∧ IsDigits digits ∧ decimalValue digits = n := by
  simp only [parseDecimal, Option.ite_none_right_eq_some, Option.some.injEq, List.all_eq_true]
  constructor
  · rintro ⟨⟨nonempty, digits⟩, value⟩
    refine ⟨String.ofList (unsignedDigits s.toList), ?_, ⟨by simpa using nonempty, ?_⟩, ?_⟩
    · rcases unsignedDigits_cases s.toList with same | signed
      · left
        rw [← same, String.ofList_toList]
      · right
        rw [← String.toList_inj, String.toList_append, String.toList_ofList]
        simpa using signed
    · simpa using digits
    · simpa [decimalValue, Nat.ofDigitChars_eq_foldl] using value
  · rintro ⟨digits, spelled, ⟨nonempty, all⟩, value⟩
    have read : unsignedDigits s.toList = digits.toList := by
      rcases spelled with rfl | rfl
      · exact unsignedDigits_of_isDigit all
      · simp [unsignedDigits]
    rw [read]
    refine ⟨⟨by simpa using nonempty, all⟩, ?_⟩
    simpa [decimalValue, Nat.ofDigitChars_eq_foldl] using value

/-- The port numbers that `parse::<u16>` reads, with or without a sign. -/
theorem parseU16_eq_some_iff (s : String) (n : UInt16) :
    parseU16 s = some n ↔ ∃ digits, (s = digits ∨ s = "+" ++ digits) ∧ IsDigits digits ∧
      decimalValue digits = n.toNat := by
  rw [← parseDecimal_eq_some_iff, parseU16, Option.bind_eq_some_iff]
  constructor
  · rintro ⟨value, parsed, fits⟩
    split at fits
    next small =>
      cases fits
      simpa using parsed
    next => cases fits
  · intro parsed
    have small : n.toNat < UInt16.size := n.toNat_lt_size
    refine ⟨n.toNat, parsed, ?_⟩
    rw [dif_pos small]
    simp

/-! ### Trimming and splitting -/

/-- `str::trim_end_matches` with one character. -/
def trimEndMatches (s : String) (c : Char) : String := String.ofList (s.toList.rdropWhile (· = c))

/-- The characters before and after the first `sep`. -/
def splitFirst (sep : List Char) : List Char → Option (List Char × List Char)
  | [] => if sep = [] then some ([], []) else none
  | c :: cs =>
    if sep <+: c :: cs then some ([], (c :: cs).drop sep.length)
    else (splitFirst sep cs).map fun parts => (c :: parts.1, parts.2)

/-- `str::split_once`. -/
def splitOnce (s sep : String) : Option (String × String) :=
  (splitFirst sep.toList s.toList).map fun parts => (String.ofList parts.1, String.ofList parts.2)

/-- `str::rsplit_once` with one character. -/
def rsplitOnce (s : String) (c : Char) : Option (String × String) :=
  if c ∈ s.toList then
    some (String.ofList (s.toList.rdropWhile (· ≠ c)).dropLast,
      String.ofList (s.toList.rtakeWhile (· ≠ c)))
  else none

example : splitOnce "a://b://c" "://" = some ("a", "b://c") ∧
    rsplitOnce "a:b:c" ':' = some ("a:b", "c") := by
  decide

theorem rdropWhile_append_replicate (cs : List Char) (c : Char) (n : Nat) :
    (cs ++ List.replicate n c).rdropWhile (· = c) = cs.rdropWhile (· = c) := by
  induction n with
  | zero => simp
  | succ n ih =>
    rw [List.replicate_succ', ← List.append_assoc, List.rdropWhile_concat_pos _ _ _ (by simp)]
    exact ih

/-- Nothing before a character that stays is dropped. -/
theorem rdropWhile_append (p : Char → Bool) (front cs : List Char)
    (stays : ∀ last ∈ front.getLast?, ¬p last) :
    (front ++ cs).rdropWhile p = front ++ cs.rdropWhile p := by
  induction cs using List.reverseRecOn with
  | nil =>
    rcases List.eq_nil_or_concat front with rfl | ⟨init, last, rfl⟩
    · simp
    · have kept : ¬p last := stays last (by simp)
      simp [List.rdropWhile_concat_neg, kept]
  | append_singleton cs c ih =>
    rw [← List.append_assoc, List.rdropWhile_concat, List.rdropWhile_concat]
    split
    · exact ih
    · rw [List.append_assoc]

theorem trimEndMatches_append_replicate (s : String) (c : Char) (n : Nat) :
    trimEndMatches (s ++ String.ofList (List.replicate n c)) c = trimEndMatches s c := by
  rw [trimEndMatches, String.toList_append, String.toList_ofList, rdropWhile_append_replicate,
    trimEndMatches]

theorem splitFirst_spec {sep cs : List Char} {parts : List Char × List Char}
    (found : splitFirst sep cs = some parts) : cs = parts.1 ++ sep ++ parts.2 := by
  induction cs generalizing parts with
  | nil =>
    obtain ⟨rfl, found⟩ := Option.ite_none_right_eq_some.mp found
    cases found
    rfl
  | cons c cs ih =>
    simp only [splitFirst] at found
    split at found
    next here =>
      cases found
      obtain ⟨after, rest⟩ := here
      simp [← rest]
    next =>
      obtain ⟨later, split, rfl⟩ := Option.map_eq_some_iff.mp found
      simp [ih split]

/-- The separator cannot begin in a text without its first character. -/
theorem splitFirst_append (first : Char) (sep before after : List Char) (absent : first ∉ before) :
    splitFirst (first :: sep) (before ++ first :: sep ++ after) = some (before, after) := by
  induction before with
  | nil => simp [splitFirst]
  | cons c before ih =>
    simp only [List.mem_cons, not_or] at absent
    have later : ¬first :: sep <+: c :: (before ++ first :: sep ++ after) := by
      intro here
      exact absent.1 (List.cons_prefix_cons.mp here).1
    simp only [List.cons_append, splitFirst]
    rw [if_neg later, ih absent.2]
    rfl

theorem splitOnce_spec {s sep before after : String}
    (found : splitOnce s sep = some (before, after)) : s = before ++ sep ++ after := by
  obtain ⟨parts, split, same⟩ := Option.map_eq_some_iff.mp found
  cases same
  rw [← String.toList_inj, splitFirst_spec split]
  simp

theorem splitOnce_append {sep before after : String} (first : Char) (rest : List Char)
    (shape : sep.toList = first :: rest) (absent : first ∉ before.toList) :
    splitOnce (before ++ sep ++ after) sep = some (before, after) := by
  simp only [splitOnce, String.toList_append, shape]
  rw [splitFirst_append first rest before.toList after.toList absent]
  simp

theorem rsplitOnce_eq_some_iff (s : String) (c : Char) (before after : String) :
    rsplitOnce s c = some (before, after) ↔
      s.toList = before.toList ++ c :: after.toList ∧ c ∉ after.toList := by
  simp only [rsplitOnce, Option.ite_none_right_eq_some, Option.some.injEq, Prod.mk.injEq]
  constructor
  · rintro ⟨member, rfl, rfl⟩
    have nonempty : s.toList.rdropWhile (· ≠ c) ≠ [] := by
      intro empty
      have other := List.rdropWhile_eq_nil_iff.mp empty c member
      simp at other
    have last : (s.toList.rdropWhile (· ≠ c)).getLast nonempty = c := by
      have stops := List.rdropWhile_last_not (· ≠ c) s.toList nonempty
      simpa using stops
    constructor
    · conv_lhs => rw [← List.rdropWhile_append_rtakeWhile (p := (· ≠ c)) (l := s.toList)]
      rw [← List.dropLast_append_getLast nonempty, last]
      simp
    · intro later
      have other := List.mem_rtakeWhile_imp (by simpa using later)
      simp at other
  · rintro ⟨shape, absent⟩
    have front : s.toList.rdropWhile (· ≠ c) = before.toList ++ [c] := by
      have dropped : after.toList.rdropWhile (· ≠ c) = [] := by
        rw [List.rdropWhile_eq_nil_iff]
        intro other member
        simpa using ne_of_mem_of_not_mem member absent
      rw [shape, List.append_cons, rdropWhile_append _ _ _ (by simp), dropped, List.append_nil]
    have back := List.rdropWhile_append_rtakeWhile (p := (· ≠ c)) (l := s.toList)
    rw [front, shape, List.append_assoc, List.append_cancel_left_eq] at back
    simp only [List.singleton_append, List.cons.injEq, true_and] at back
    rw [front, shape, back]
    simp

theorem rsplitOnce_eq_none_iff (s : String) (c : Char) :
    rsplitOnce s c = none ↔ c ∉ s.toList := by
  simp [rsplitOnce]

/-! ### Decoding bytes -/

/-- Width of the UTF-8 sequence that starts with `b`, and the bounds of its second byte. -/
def sequenceOf (b : UInt8) : Option (Nat × UInt8 × UInt8) :=
  if 0xC2 ≤ b ∧ b ≤ 0xDF then some (2, 0x80, 0xBF)
  else if b = 0xE0 then some (3, 0xA0, 0xBF)
  else if b = 0xED then some (3, 0x80, 0x9F)
  else if 0xE1 ≤ b ∧ b ≤ 0xEF then some (3, 0x80, 0xBF)
  else if b = 0xF0 then some (4, 0x90, 0xBF)
  else if b = 0xF4 then some (4, 0x80, 0x8F)
  else if 0xF1 ≤ b ∧ b ≤ 0xF3 then some (4, 0x80, 0xBF)
  else none

/-- The character decoded at `b`, and how many bytes after `b` belong to it. An ill-formed
sequence becomes one U+FFFD for its longest well-formed beginning. -/
def lossyChar (b : UInt8) (rest : List UInt8) : Char × Nat :=
  if b < 0x80 then (Char.ofNat b.toNat, 0)
  else
    match sequenceOf b, rest with
    | some (width, low, high), second :: more =>
      if low ≤ second ∧ second ≤ high then
        let tail := (more.take (width - 2)).takeWhile fun c => 0x80 ≤ c && c ≤ 0xBF
        if tail.length = width - 2 then
          let lead := b.toNat % Nat.pow 2 (7 - width)
          (Char.ofNat ((second :: tail).foldl (fun n c => n * 64 + c.toNat % 64) lead), width - 1)
        else (Char.ofNat 0xFFFD, 1 + tail.length)
      else (Char.ofNat 0xFFFD, 0)
    | _, _ => (Char.ofNat 0xFFFD, 0)

/-- Every step consumes a byte, so the length of the input is enough fuel. -/
def lossyChars : Nat → List UInt8 → List Char
  | 0, _ | _, [] => []
  | fuel + 1, b :: rest =>
    let (c, used) := lossyChar b rest
    c :: lossyChars fuel (rest.drop used)

/-- `String::from_utf8_lossy`. -/
def fromUtf8Lossy (bytes : List UInt8) : String := String.ofList (lossyChars bytes.length bytes)

example : fromUtf8Lossy [0xE2, 0x82, 0xAC, 0xE2, 0x82, 0x41, 0xFF] =
    String.ofList [Char.ofNat 0x20AC, Char.ofNat 0xFFFD, 'A', Char.ofNat 0xFFFD] := by
  decide

end RustStr

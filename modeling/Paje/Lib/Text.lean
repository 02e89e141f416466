import Mathlib.Data.String.Basic

/-!
Text as the Go library sees it: blank and trimmed strings, byte length, prefixes and the
NUL-separated joins that the components use as map keys and hash seeds. A text is valid UTF-8; a Go
string need not be, and JSON replaces what is not.
-/

namespace Paje.Text

open List String Bool

variable {a b one s two : String}

def bytes (s : String) : List UInt8 := s.toByteArray.data.toList

/-- `unicode.IsSpace`. -/
def isSpace (c : Char) : Bool :=
  c ∈ ['\t', '\n', '\x0b', '\x0c', '\r', ' ', '\u0085', '\u00a0', '\u1680', '\u2028', '\u2029',
    '\u202f', '\u205f', '\u3000'] || (0x2000 ≤ c.toNat && c.toNat ≤ 0x200a)

def asciiSpace (b : UInt8) : Bool := b = 32 || (9 ≤ b && b ≤ 13)

def ascii (s : String) : Bool := (bytes s).all (· < 0x80)

/-- `strings.TrimSpace(s) == ""`, with the byte-wise path that `TrimSpace` takes on ASCII texts. -/
def blank (s : String) : Bool :=
  if ascii s then (bytes s).all asciiSpace else s.toList.all isSpace

/-- `strings.TrimSpace(s) == s`. -/
def trimmed (s : String) : Bool :=
  if ascii s then
    (bytes s).head?.all (fun b => !asciiSpace b) && (bytes s).getLast?.all (fun b => !asciiSpace b)
  else
    s.toList.head?.all (fun c => !isSpace c) && s.toList.getLast?.all (fun c => !isSpace c)

/-- `strings.TrimSpace(s) != "" && len(s) <= limit`. -/
def bounded (s : String) (limit : Nat) : Bool := !blank s && s.utf8ByteSize ≤ limit

/-- `strings.HasPrefix(s, start)`. -/
def beginsWith (start s : String) : Bool := (bytes start).isPrefixOf (bytes s)

/-- `strings.ContainsAny(s, set)` for a set of ASCII characters. -/
def containsAny (s : String) (set : List UInt8) : Bool := (bytes s).any (fun b => b ∈ set)

def graphic (s : String) : Bool := (bytes s).all fun b => 0x21 ≤ b && b < 0x7f

def hexDigit (b : UInt8) : Bool := (48 ≤ b && b ≤ 57) || (97 ≤ b && b ≤ 102)

/-- `strings.Join(values, "\x00")`. -/
def joinNul : List String → String
  | [] => ""
  | [value] => value
  | value :: rest => value ++ "\x00" ++ joinNul rest

/-- `strings.HasSuffix(s, ending)`. -/
def endsWith (ending s : String) : Bool := (bytes ending).isSuffixOf (bytes s)

/-- `strings.TrimPrefix(s, start)`. -/
def dropStart (start s : String) : String :=
  if beginsWith start s then String.ofList (s.toList.drop start.length) else s

/-- `strings.TrimSuffix(s, ending)`. -/
def dropEnd (ending s : String) : String :=
  if endsWith ending s then String.ofList (s.toList.take (s.length - ending.length)) else s

def splitSlash : List Char → List (List Char)
  | [] => [[]]
  | c :: rest => match splitSlash rest with
    | [] => [[c]]
    | part :: parts => if c = '/' then [] :: part :: parts else (c :: part) :: parts

/-- The parts of a cleaned path, the last one first; `rooted` says whether the path starts at the root. -/
def cleanParts (rooted : Bool) (parts : List (List Char)) : List (List Char) :=
  parts.foldl (fun kept part =>
    if part = [] ∨ part = ['.'] then kept
    else if part = ['.', '.'] then
      match kept with
      | [] => if rooted then [] else [part]
      | last :: rest => if last = ['.', '.'] then part :: kept else rest
    else part :: kept) []

/-- `filepath.Clean` of a path with forward slashes. -/
def clean (path : String) : String :=
  let rooted := beginsWith "/" path
  let parts := ['/'].intercalate (cleanParts rooted (splitSlash path.toList)).reverse
  if rooted then String.ofList ('/' :: parts) else if parts = [] then "." else String.ofList parts

example : clean "/a//b/../c/." = "/a/c" ∧ clean "a/../.." = ".." ∧ clean "" = "." := by decide +kernel

/-- `strings.TrimSpace`. -/
def trimSpace (s : String) : String :=
  String.ofList ((s.toList.dropWhile isSpace).reverse.dropWhile isSpace).reverse

/-- `strings.IndexByte(s, 0) >= 0`. -/
def containsNul (s : String) : Bool := s.toList.contains '\x00'

/-- `strings.Contains(s, "..")`. -/
def containsDots (s : String) : Bool :=
  (s.toList.zip s.toList.tail).any fun pair => pair = ('.', '.')

theorem bytes_append (a b : String) : bytes (a ++ b) = bytes a ++ bytes b := by
  simp [bytes, String.toByteArray_append, ByteArray.data_append]

theorem bytes_inj (h : bytes a = bytes b) : a = b :=
  toByteArray_inj.mp (ByteArray.ext (Array.toList_inj.mp h))

theorem length_bytes (s : String) : (bytes s).length = s.utf8ByteSize := Array.length_toList

theorem graphic_append (a b : String) : graphic (a ++ b) = (graphic a && graphic b) := by
  simp [graphic, bytes_append]

theorem graphic_trimmed (h : graphic s = true) : trimmed s = true := by
  simp only [graphic, all_eq_true, and_eq_true, decide_eq_true_eq] at h
  have plain : ascii s = true := by
    simp only [ascii, all_eq_true, decide_eq_true_eq]
    exact fun b member => UInt8.lt_trans (h b member).2 (by decide)
  have visible : ∀ b ∈ bytes s, asciiSpace b = false := by
    intro b member
    have high := (h b member).1
    simp only [asciiSpace, or_eq_false_iff, decide_eq_false_iff_not, and_eq_false_iff]
    grind
  simp only [trimmed, plain, if_true, and_eq_true, Option.all_eq_true, not_eq_true']
  exact ⟨fun b first => visible b (mem_of_head? first), fun b last => visible b (mem_of_getLast? last)⟩

theorem graphic_of_hex (digits : (bytes s).all hexDigit = true) : graphic s = true := by
  simp only [graphic, hexDigit, all_eq_true, or_eq_true, and_eq_true, decide_eq_true_eq] at digits ⊢
  intro b member
  rcases digits b member with digit | letter
  · exact ⟨UInt8.le_trans (by decide) digit.1, UInt8.lt_of_le_of_lt digit.2 (by decide)⟩
  · exact ⟨UInt8.le_trans (by decide) letter.1, UInt8.lt_of_le_of_lt letter.2 (by decide)⟩

theorem graphic_containsAny (h : graphic s = true) {set : List UInt8}
    (low : ∀ b ∈ set, b < 0x21) : containsAny s set = false := by
  simp only [graphic, all_eq_true, and_eq_true, decide_eq_true_eq] at h
  simp only [containsAny, any_eq_false, decide_eq_true_eq]
  exact fun b member listed => UInt8.not_lt.mpr (h b member).1 (low b listed)

theorem append_right_cancel (h : a ++ s = b ++ s) : a = b := by
  have lists := congrArg String.toList h
  simp only [toList_append, append_cancel_right_eq] at lists
  exact toList_inj.mp lists

theorem append_left_cancel (h : s ++ a = s ++ b) : a = b := by
  have lists := congrArg String.toList h
  simp only [toList_append, append_cancel_left_eq] at lists
  exact toList_inj.mp lists

theorem beginsWith_append (start rest : String) : beginsWith start (start ++ rest) = true := by
  simp [beginsWith, bytes_append]

theorem beginsWith_iff {start : String} : beginsWith start s = true ↔ ∃ rest, s = start ++ rest := by
  constructor
  · intro h
    obtain ⟨more, same⟩ := isPrefixOf_iff_prefix.mp h
    have joined : start.toList.utf8Encode ++ ⟨more.toArray⟩ = s.toList.utf8Encode := by
      rw [utf8Encode_toList, utf8Encode_toList]
      exact ByteArray.ext (Array.toList_inj.mp (by simpa [bytes, ByteArray.data_append] using same))
    obtain ⟨rest, lists⟩ := isPrefix_of_utf8Encode_append_eq_utf8Encode _ joined
    exact ⟨String.ofList rest, toList_inj.mp (by simp [← lists])⟩
  · rintro ⟨rest, rfl⟩
    exact beginsWith_append start rest

theorem endsWith_iff {ending : String} : endsWith ending s = true ↔ ∃ front, s = front ++ ending := by
  constructor
  · intro h
    obtain ⟨more, same⟩ := isSuffixOf_iff_suffix.mp h
    have joined : s.toByteArray = ⟨more.toArray⟩ ++ ending.toByteArray :=
      ByteArray.ext (Array.toList_inj.mp (by simpa [bytes, ByteArray.data_append] using same.symm))
    have size : s.utf8ByteSize = more.length + ending.utf8ByteSize := by
      rw [← length_bytes, ← length_bytes, ← same, List.length_append]
    -- the end of `s` that is `ending` is valid, so the text before it is
    have valid : String.Pos.Raw.IsValid s ⟨more.length⟩ := by
      refine String.Pos.Raw.isValid_iff_isValidUTF8_extract_utf8ByteSize.mpr ⟨?_, ?_⟩
      · simp [String.Pos.Raw.le_iff, size]
      · rw [joined, size]
        have tail : ByteArray.extract (⟨more.toArray⟩ ++ ending.toByteArray) more.length
            (more.length + ending.utf8ByteSize) = ending.toByteArray :=
          ByteArray.extract_append_eq_right rfl rfl
        rw [tail]
        exact ending.isValidUTF8
    obtain ⟨_, front⟩ := String.Pos.Raw.isValid_iff_isValidUTF8_extract_zero.mp valid
    refine ⟨String.ofByteArray _ front, toByteArray_inj.mp ?_⟩
    rw [String.toByteArray_append]
    show s.toByteArray = s.toByteArray.extract 0 more.length ++ ending.toByteArray
    have head : ByteArray.extract (⟨more.toArray⟩ ++ ending.toByteArray) 0 more.length = ⟨more.toArray⟩ :=
      ByteArray.extract_append_eq_left rfl
    rw [joined, head]
  · rintro ⟨front, rfl⟩
    simp [endsWith, bytes_append]

theorem dropStart_append (start rest : String) : dropStart start (start ++ rest) = rest := by
  rw [dropStart, if_pos (beginsWith_append _ _), String.toList_append, ← String.length_toList, List.drop_left,
    String.ofList_toList]

theorem dropEnd_append (front ending : String) : dropEnd ending (front ++ ending) = front := by
  rw [dropEnd, if_pos (endsWith_iff.mpr ⟨front, rfl⟩), String.toList_append, ← String.length_toList,
    ← String.length_toList, String.toList_append, List.length_append, Nat.add_sub_cancel, List.take_left,
    String.ofList_toList]

theorem toString_nat_inj {a b : Nat} (h : toString a = toString b) : a = b := by
  have read := congrArg (fun s => Nat.ofDigitChars 10 (String.toList s) 0) h
  simpa using read

theorem joinNul_snoc (values : List String) (last : String) :
    ∃ front, joinNul (values ++ [last]) = front ++ last := by
  induction values with
  | nil => exact ⟨"", by simp [joinNul]⟩
  | cons value rest ih =>
    obtain ⟨front, same⟩ := ih
    refine ⟨value ++ "\x00" ++ front, ?_⟩
    have more : ∃ head tail, rest ++ [last] = head :: tail := by
      cases rest <;> simp
    obtain ⟨head, tail, split⟩ := more
    rw [cons_append, split, joinNul, ← split, same]
    · simp [String.append_assoc]
    · simp

theorem joinNul_last (one two : List String)
    (same : joinNul (one ++ [a]) = joinNul (two ++ [b])) (size : a.utf8ByteSize = b.utf8ByteSize) : a = b := by
  obtain ⟨front, left⟩ := joinNul_snoc one a
  obtain ⟨front', right⟩ := joinNul_snoc two b
  rw [left, right] at same
  have lists := congrArg bytes same
  rw [bytes_append, bytes_append] at lists
  refine bytes_inj (append_inj' lists ?_).2
  rw [length_bytes, length_bytes, size]

/-! ### Joins split at the first NUL -/

theorem split_at_nul {a b x y : List Char} (ha : '\x00' ∉ a) (hb : '\x00' ∉ b)
    (h : a ++ '\x00' :: x = b ++ '\x00' :: y) : a = b ∧ x = y := by
  induction a generalizing b with
  | nil =>
    cases b with
    | nil => exact ⟨rfl, by simpa using h⟩
    | cons c rest =>
      obtain ⟨same, -⟩ := List.cons.inj h
      exact (hb (same ▸ mem_cons_self)).elim
  | cons c rest ih =>
    cases b with
    | nil =>
      obtain ⟨same, -⟩ := List.cons.inj h
      exact (ha (same ▸ mem_cons_self)).elim
    | cons d more =>
      obtain ⟨same, tails⟩ := List.cons.inj h
      obtain ⟨heads, rests⟩ := ih (fun m => ha (mem_cons_of_mem _ m))
        (fun m => hb (mem_cons_of_mem _ m)) tails
      exact ⟨by rw [same, heads], rests⟩

abbrev NulFree (s : String) : Prop := '\x00' ∉ s.toList

theorem split_at_last_nul (ha : NulFree a) (hb : NulFree b)
    (h : one ++ "\x00" ++ a = two ++ "\x00" ++ b) : one = two ∧ a = b := by
  have lists := congrArg (fun s => (String.toList s).reverse) h
  simp only [String.toList_append, List.reverse_append, List.append_assoc] at lists
  have plain : ∀ {s : String}, NulFree s → '\x00' ∉ s.toList.reverse := fun free member =>
    free (List.mem_reverse.mp member)
  obtain ⟨last, front⟩ := split_at_nul (plain ha) (plain hb) lists
  exact ⟨toList_inj.mp (reverse_injective front), toList_inj.mp (reverse_injective last)⟩

theorem joinNul_cons (value next : String) (rest : List String) :
    joinNul (value :: next :: rest) = value ++ "\x00" ++ joinNul (next :: rest) := rfl

variable {ones twos : List String}

theorem joinNul_rest {value : String}
    (h : joinNul (value :: one :: ones) = joinNul (value :: two :: twos)) :
    joinNul (one :: ones) = joinNul (two :: twos) := by
  rw [joinNul_cons, joinNul_cons] at h
  exact append_left_cancel h

theorem joinNul_first (ha : NulFree a) (hb : NulFree b)
    (h : joinNul (a :: one :: ones) = joinNul (b :: two :: twos)) :
    a = b ∧ joinNul (one :: ones) = joinNul (two :: twos) := by
  rw [joinNul_cons, joinNul_cons] at h
  have lists := congrArg String.toList h
  simp only [String.toList_append, List.append_assoc] at lists
  obtain ⟨first, rest⟩ := split_at_nul ha hb lists
  exact ⟨String.toList_inj.mp first, String.toList_inj.mp rest⟩

theorem isDigit_toString {n : Nat} {c : Char} (member : c ∈ (toString n).toList) : c.isDigit = true := by
  refine Nat.isDigit_of_mem_toDigits (b := 10) (n := n) (by decide) (by decide) ?_
  simpa using member

theorem nulFree_toString (n : Nat) : NulFree (toString n) := fun member =>
  absurd (isDigit_toString member) (by decide)

end Paje.Text

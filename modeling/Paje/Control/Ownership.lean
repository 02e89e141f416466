import Paje.Control.Graph

/-!
What an ownership pattern stands for. The overlap test compares the texts of two patterns; it is
exact but for the bare wildcard, which only ever meets itself.
-/

namespace Paje.Control

open Text List

def covers (pattern path : String) : Bool :=
  if pattern = "**" then true
  else if endsWith "/**" pattern then
    path = dropEnd "/**" pattern || beginsWith (dropEnd "/**" pattern ++ "/") path
  else path = pattern

def relativePath (path : String) : Bool := path ≠ "" && !beginsWith "/" path

/-- A pattern of some ownership that `validateOwnership` accepts. -/
def Accepted (pattern : String) : Prop :=
  ∃ ownership, validateOwnership ownership = .ok () ∧
    pattern ∈ ownership.mutable ++ ownership.parentOwned ++ ownership.forbidden

variable {first second start path pattern : String}

theorem Accepted.clean (accepted : Accepted pattern) : cleanOwnership pattern = pattern ∧ pattern ≠ "" := by
  obtain ⟨ownership, valid, listed⟩ := accepted
  obtain ⟨each, _⟩ := require_bind_ok valid
  have own : ∀ values ∈ [ownership.mutable, ownership.parentOwned, ownership.forbidden], pattern ∈ values →
      cleanOwnership pattern = pattern ∧ pattern ≠ "" := by
    intro values member inside
    obtain ⟨present, same⟩ := (each values member).1 pattern inside
    exact ⟨same, same ▸ present⟩
  rcases mem_append.mp listed with listed | listed
  · rcases mem_append.mp listed with listed | listed
    · exact own _ (by simp) listed
    · exact own _ (by simp) listed
  · exact own _ (by simp) listed

theorem Accepted.relative (accepted : Accepted pattern) : relativePath pattern = true := by
  obtain ⟨same, present⟩ := accepted.clean
  unfold cleanOwnership at same
  split at same
  · exact absurd same.symm present
  · rename_i plain
    simp only [not_or] at plain
    simp [relativePath, present, plain.2.1]

/-- `second` is the start of the pattern `first` or lies below it. -/
def Below (first second : String) : Prop :=
  ∃ start, first = start ++ "/**" ∧ (second = start ∨ ∃ rest, second = start ++ "/" ++ rest)

theorem below_iff : (endsWith "/**" first && (second = dropEnd "/**" first ||
    beginsWith (dropEnd "/**" first ++ "/") second)) = true ↔ Below first second := by
  rw [Bool.and_eq_true, endsWith_iff, Bool.or_eq_true, decide_eq_true_eq, beginsWith_iff]
  constructor
  · rintro ⟨⟨start, rfl⟩, below⟩
    rw [dropEnd_append] at below
    exact ⟨start, rfl, below⟩
  · rintro ⟨start, rfl, below⟩
    rw [dropEnd_append]
    exact ⟨⟨start, rfl⟩, below⟩

theorem pathPatternsOverlap_iff (one : Accepted first) (two : Accepted second) :
    pathPatternsOverlap first second = true ↔ first = second ∨ Below first second ∨ Below second first := by
  unfold pathPatternsOverlap
  simp only [one.clean.1, two.clean.1, one.clean.2, two.clean.2, or_self, if_false]
  by_cases same : first = second
  · simp [same]
  · rw [if_neg same, Bool.or_eq_true, below_iff, below_iff]
    simp [same]

theorem covers_iff (plain : pattern ≠ "**") : covers pattern path = true ↔ path = pattern ∨ Below pattern path := by
  unfold covers
  rw [if_neg plain]
  by_cases wild : endsWith "/**" pattern = true
  · have below := @below_iff pattern path
    rw [wild, Bool.true_and] at below
    rw [if_pos wild, below]
    obtain ⟨start, rfl⟩ := endsWith_iff.mp wild
    refine ⟨.inr, ?_⟩
    rintro (rfl | below)
    · exact ⟨start, rfl, .inr ⟨"**", by rw [String.append_assoc]; rfl⟩⟩
    · exact below
  · have none : ¬ Below pattern path := fun ⟨start, is, _⟩ => wild (endsWith_iff.mpr ⟨start, is⟩)
    simp [wild, none]

theorem start_below {one two : String} {gap rest more : List Char} (left : two.toList = one.toList ++ gap)
    (right : '/' :: rest = gap ++ '/' :: more) : one = two ∨ ∃ between, two = one ++ "/" ++ between := by
  cases gap with
  | nil => exact .inl (String.toList_inj.mp (by simpa using left.symm))
  | cons c gap =>
    have slash : '/' = c := (List.cons.inj right).1
    subst slash
    exact .inr ⟨String.ofList gap, String.toList_inj.mp (by simpa using left)⟩

theorem starts_meet {one two rest more : String} (same : one ++ "/" ++ rest = two ++ "/" ++ more) :
    one = two ∨ (∃ between, two = one ++ "/" ++ between) ∨ ∃ between, one = two ++ "/" ++ between := by
  have lists := congrArg String.toList same
  simp only [String.toList_append, List.append_assoc] at lists
  rcases List.append_eq_append_iff.mp lists with ⟨gap, left, right⟩ | ⟨gap, left, right⟩
  · exact (start_below left right).imp_right .inl
  · exact (start_below left right).imp Eq.symm .inr

theorem below_wild {between : String} (is : second = start ++ "/" ++ between) :
    Below (start ++ "/**") (second ++ "/**") :=
  ⟨start, rfl, .inr ⟨between ++ "/**", by rw [is, String.append_assoc]⟩⟩

theorem below_both (one : Below first path) (two : Below second path) :
    first = second ∨ Below first second ∨ Below second first := by
  obtain ⟨left, rfl, inLeft⟩ := one
  obtain ⟨right, rfl, inRight⟩ := two
  rcases inLeft with rfl | ⟨rest, rfl⟩
  · rcases inRight with rfl | ⟨more, is⟩
    · exact .inl rfl
    · exact .inr (.inr (below_wild is))
  · rcases inRight with is | ⟨more, is⟩
    · exact .inr (.inl (below_wild is.symm))
    · rcases starts_meet is with rfl | ⟨between, is⟩ | ⟨between, is⟩
      · exact .inl rfl
      · exact .inr (.inl (below_wild is))
      · exact .inr (.inr (below_wild is))

theorem overlap_shared (one : Accepted first) (two : Accepted second) (plainOne : first ≠ "**")
    (plainTwo : second ≠ "**") : pathPatternsOverlap first second = true ↔
      ∃ path, relativePath path = true ∧ covers first path = true ∧ covers second path = true := by
  rw [pathPatternsOverlap_iff one two]
  simp only [covers_iff plainOne, covers_iff plainTwo]
  constructor
  · rintro (rfl | below | below)
    · exact ⟨first, one.relative, .inl rfl, .inl rfl⟩
    · exact ⟨second, two.relative, .inr below, .inl rfl⟩
    · exact ⟨first, one.relative, .inl rfl, .inr below⟩
  · rintro ⟨path, _, rfl | inOne, rfl | inTwo⟩
    · exact .inl rfl
    · exact .inr (.inr inTwo)
    · exact .inr (.inl inOne)
    · exact below_both inOne inTwo

def Ownership.covers (ownership : Ownership) (path : String) : Bool := ownership.mutable.any (Control.covers · path)

theorem ownershipOverlaps_covers {one two : Ownership} (first : validateOwnership one = .ok ())
    (second : validateOwnership two = .ok ()) (plainFirst : "**" ∉ one.mutable) (plainSecond : "**" ∉ two.mutable)
    (relative : relativePath path = true) (mine : one.covers path = true) (theirs : two.covers path = true) :
    ownershipOverlaps one.mutable two.mutable = true := by
  obtain ⟨left, leftIn, left'⟩ := any_eq_true.mp mine
  obtain ⟨right, rightIn, right'⟩ := any_eq_true.mp theirs
  refine any_eq_true.mpr ⟨left, leftIn, any_eq_true.mpr ⟨right, rightIn, ?_⟩⟩
  exact (overlap_shared ⟨one, first, by simp [leftIn]⟩ ⟨two, second, by simp [rightIn]⟩
    (fun bare => plainFirst (bare ▸ leftIn)) fun bare => plainSecond (bare ▸ rightIn)).mpr
    ⟨path, relative, left', right'⟩

theorem below_bare : Below pattern "**" ↔ pattern = "**/**" := by
  constructor
  · rintro ⟨start, rfl, rfl | ⟨rest, is⟩⟩
    · rfl
    · have slash : '/' ∈ "**".toList := by
        rw [is]
        simp
      exact absurd slash (by decide)
  · rintro rfl
    exact ⟨"**", rfl, .inl rfl⟩

/-- The bare wildcard covers every path, but overlaps itself and `**/**` only. -/
theorem bare_overlap (accepted : Accepted "**") (other : Accepted pattern) :
    (pathPatternsOverlap "**" pattern = true ↔ pattern = "**" ∨ pattern = "**/**") ∧
      ∃ path, relativePath path = true ∧ covers "**" path = true ∧ covers pattern path = true := by
  refine ⟨?_, pattern, other.relative, rfl, ?_⟩
  · rw [pathPatternsOverlap_iff accepted other, below_bare]
    constructor
    · rintro (rfl | ⟨start, is, _⟩ | rfl)
      · exact .inl rfl
      · have slash : '/' ∈ "**".toList := by
          rw [is]
          simp
        exact absurd slash (by decide)
      · exact .inr rfl
    · rintro (rfl | rfl)
      · exact .inl rfl
      · exact .inr (.inr rfl)
  · by_cases bare : pattern = "**"
    · simp [covers, bare]
    · exact (covers_iff bare).mpr (.inl rfl)

/-- `pathPatternsOverlap` says of two accepted patterns whether they share a path, unless one of them is the
bare wildcard and the other neither that nor `**/**`. -/
theorem overlap_exact (one : Accepted first) (two : Accepted second) : ((pathPatternsOverlap first second = true ↔
        ∃ path, relativePath path = true ∧ covers first path = true ∧ covers second path = true) ↔
      (first = "**" → second = "**" ∨ second = "**/**") ∧ (second = "**" → first = "**" ∨ first = "**/**")) ∧
    pathPatternsOverlap first second = pathPatternsOverlap second first ∧
    pathPatternsOverlap (cleanOwnership first) (cleanOwnership second) = pathPatternsOverlap first second := by
  refine ⟨?_, pathPatternsOverlap_comm first second, by rw [one.clean.1, two.clean.1]⟩
  by_cases bareOne : first = "**"
  · subst bareOne
    obtain ⟨overlaps, shared⟩ := bare_overlap one two
    rw [overlaps]
    simp [shared]
  · by_cases bareTwo : second = "**"
    · subst bareTwo
      obtain ⟨overlaps, path, relative, covers, mine⟩ := bare_overlap two one
      have shared : ∃ path, relativePath path = true ∧ Control.covers first path = true ∧
          Control.covers "**" path = true := ⟨path, relative, mine, covers⟩
      rw [pathPatternsOverlap_comm, overlaps]
      simp [shared, bareOne]
    · simp [overlap_shared one two bareOne bareTwo, bareOne, bareTwo]

theorem overlap_exact_nested : Accepted "a/**" ∧ Accepted "a/b" ∧
    ∃ path, relativePath path = true ∧ covers "a/**" path = true ∧ covers "a/b" path = true := by
  have one : Accepted "a/**" := ⟨{ mutable := ["a/**"] }, by decide +kernel, by simp⟩
  have two : Accepted "a/b" := ⟨{ mutable := ["a/b"] }, by decide +kernel, by simp⟩
  have whole := (overlap_exact one two).1.mpr (by decide)
  exact ⟨one, two, whole.mp (by decide +kernel)⟩

/-- The bare wildcard covers `a`, and the test says that it does not overlap `a`. -/
theorem overlap_missed : validateOwnership { mutable := ["**"] } = .ok () ∧
    validateOwnership { mutable := ["a"] } = .ok () ∧
    pathPatternsOverlap "**" "a" = false ∧ relativePath "a" = true ∧ covers "**" "a" = true ∧
    covers "a" "a" = true := by decide +kernel

end Paje.Control

import Paje.Lib.Text
import Mathlib.Data.List.DropRight

/-!
Clean paths: a path is clean when it is the join of its parts and none of them is empty or a dot.
-/

namespace Paje.Text

open List String

variable {path : String} {parts : List (List Char)} {part : List Char}

theorem splitSlash_eq (path : List Char) : splitSlash path = path.splitOn '/' := by
  induction path with
  | nil => rfl
  | cons c rest ih =>
    rw [splitSlash, ih, splitOn_cons_eq_if_modifyHead]
    cases split : rest.splitOn '/' with
    | nil => exact absurd split (splitOn_ne_nil _ _)
    | cons part parts => simp [List.modifyHead]

theorem slash_split {path : List Char} (member : part ∈ splitSlash path) : '/' ∉ part ∧ ∀ c ∈ part, c ∈ path := by
  induction path generalizing part with
  | nil => simp_all [splitSlash]
  | cons c rest ih =>
    rw [splitSlash] at member
    cases split : splitSlash rest with
    | nil => exact absurd (splitSlash_eq rest ▸ split) (splitOn_ne_nil _ _)
    | cons first parts =>
      rw [split] at ih member
      have later : ∀ {other}, other ∈ first :: parts → '/' ∉ other ∧ ∀ d ∈ other, d ∈ c :: rest := fun listed =>
        (ih listed).imp_right fun inside d here => mem_cons_of_mem _ (inside d here)
      simp only at member
      split at member
      · rcases mem_cons.mp member with rfl | listed
        · simp
        · exact later listed
      · rename_i plain
        rcases mem_cons.mp member with rfl | listed
        · obtain ⟨free, inside⟩ := later mem_cons_self
          refine ⟨by simpa [Ne.symm plain] using free, fun d here => ?_⟩
          rcases mem_cons.mp here with rfl | here
          · exact mem_cons_self
          · exact inside d here
        · exact later (mem_cons_of_mem _ listed)

/-- A part of a path that `clean` keeps. -/
def kept (part : List Char) : Bool := part ≠ [] && part ≠ ['.']

theorem cleanParts_eq (rooted : Bool) (up : ['.', '.'] ∉ parts) :
    cleanParts rooted parts = (parts.filter kept).reverse := by
  induction parts using List.reverseRecOn with
  | nil => rfl
  | append_singleton parts part ih =>
    rw [List.mem_append, not_or, List.mem_singleton] at up
    have before := ih up.1
    unfold cleanParts at before ⊢
    rw [List.foldl_append, before, List.foldl_cons, List.foldl_nil, List.filter_append, List.reverse_append]
    by_cases plain : part = [] ∨ part = ['.']
    · rw [if_pos plain, List.filter_cons_of_neg (by simpa [kept] using plain.resolve_left)]
      rfl
    · rw [if_neg plain, if_neg (Ne.symm up.2), List.filter_cons_of_pos (by simpa [kept, not_or] using plain)]
      rfl

section

variable (plain : beginsWith "/" path = false) (up : ['.', '.'] ∉ splitSlash path.toList)
include plain up

theorem clean_relative :
    clean path = if (splitSlash path.toList).filter kept = [] then "."
      else String.ofList (['/'].intercalate ((splitSlash path.toList).filter kept)) := by
  have empty : ['/'].intercalate ((splitSlash path.toList).filter kept) = [] ↔
      (splitSlash path.toList).filter kept = [] := by
    cases found : (splitSlash path.toList).filter kept with
    | nil => simp [List.intercalate]
    | cons part parts =>
      have present : kept part = true := (mem_filter.mp (found ▸ mem_cons_self)).2
      simp only [kept, Bool.and_eq_true, decide_eq_true_eq] at present
      cases parts <;> simp [List.intercalate, present.1]
  unfold clean
  simp only [plain, Bool.false_eq_true, if_false, cleanParts_eq false up, reverse_reverse, empty]

theorem splitSlash_clean
    (some : (splitSlash path.toList).filter kept ≠ []) :
    splitSlash (clean path).toList = (splitSlash path.toList).filter kept := by
  rw [clean_relative plain up, if_neg some, toList_ofList, splitSlash_eq (['/'].intercalate _)]
  exact splitOn_intercalate '/' (fun part member => (slash_split (mem_of_mem_filter member)).1) some

theorem clean_fixed (fixed : clean path = path)
    (named : path ≠ ".") : ∀ part ∈ splitSlash path.toList, kept part = true := by
  by_cases some : (splitSlash path.toList).filter kept = []
  · rw [clean_relative plain up, if_pos some] at fixed
    exact absurd fixed.symm named
  · have same := splitSlash_clean plain up some
    rw [fixed] at same
    intro part member
    rw [same] at member
    exact (mem_filter.mp member).2

theorem clean_clean :
    beginsWith "/" (clean path) = false ∧ ['.', '.'] ∉ splitSlash (clean path).toList ∧
      clean (clean path) = clean path := by
  by_cases some : (splitSlash path.toList).filter kept = []
  · rw [clean_relative plain up, if_pos some]
    decide +kernel
  · have parts := splitSlash_clean plain up some
    have stays : ['.', '.'] ∉ splitSlash (clean path).toList := by
      rw [parts]
      exact fun member => up (mem_of_mem_filter member)
    have relative : beginsWith "/" (clean path) = false := by
      rw [Bool.eq_false_iff]
      intro rooted
      obtain ⟨rest, same⟩ := beginsWith_iff.mp rooted
      have first : [] ∈ splitSlash (clean path).toList := by
        rw [same, toList_append, splitSlash_eq, show "/".toList = ['/'] from rfl, singleton_append,
          splitOn_cons_eq_if_modifyHead]
        simp
      rw [parts] at first
      simp [kept] at first
    refine ⟨relative, stays, ?_⟩
    rw [clean_relative relative stays, parts, filter_filter]
    simp only [Bool.and_self]
    exact (clean_relative plain up).symm

end

theorem mem_intercalate {α : Type _} {sep : List α} {parts : List (List α)} {a : α}
    (member : a ∈ sep.intercalate parts) : a ∈ sep ∨ ∃ part ∈ parts, a ∈ part := by
  induction parts with
  | nil => simp at member
  | cons part rest ih =>
    cases rest with
    | nil => exact .inr ⟨part, by simp, by simpa using member⟩
    | cons next rest =>
      simp only [List.intercalate_cons_cons, List.mem_append] at member
      rcases member with (here | here) | here
      · exact .inr ⟨part, by simp, here⟩
      · exact .inl here
      · exact (ih here).imp_right fun ⟨other, listed, inside⟩ => ⟨other, mem_cons_of_mem _ listed, inside⟩

theorem mem_clean (plain : beginsWith "/" path = false) (up : ['.', '.'] ∉ splitSlash path.toList) {c : Char}
    (member : c ∈ (clean path).toList) : c ∈ path.toList ∨ c = '/' ∨ c = '.' := by
  rw [clean_relative plain up] at member
  split at member
  · exact .inr (.inr (by simpa using member))
  · rw [toList_ofList] at member
    rcases mem_intercalate member with slash | ⟨part, listed, inside⟩
    · exact .inr (.inl (by simpa using slash))
    · exact .inl ((slash_split (mem_of_mem_filter listed)).2 c inside)

theorem clean_rooted {rest : List Char} (split : path.toList = '/' :: rest)
    (each : ∀ part ∈ splitSlash rest, kept part = true ∧ part ≠ ['.', '.']) : clean path = path := by
  have rooted : beginsWith "/" path = true :=
    beginsWith_iff.mpr ⟨String.ofList rest, toList_inj.mp (by simp [split])⟩
  have parts : splitSlash path.toList = [] :: splitSlash rest := by
    rw [split, splitSlash_eq, splitSlash_eq, splitOn_cons_eq_if_modifyHead]
    simp
  have up : ['.', '.'] ∉ splitSlash path.toList := by
    rw [parts]
    intro member
    rcases mem_cons.mp member with absurd | member
    · cases absurd
    · exact (each _ member).2 rfl
  have all : (splitSlash rest).filter kept = splitSlash rest :=
    filter_eq_self.mpr fun part member => (each part member).1
  unfold clean
  rw [if_pos rooted, cleanParts_eq _ up, reverse_reverse, parts, filter_cons_of_neg (by simp [kept]), all,
    splitSlash_eq, intercalate_splitOn]
  exact toList_inj.mp (by simp [split])

theorem mem_trimSpace {s : String} {c : Char} (member : c ∈ (trimSpace s).toList) : c ∈ s.toList := by
  rw [trimSpace, toList_ofList, mem_reverse] at member
  exact (dropWhile_sublist _).mem (mem_reverse.mp ((dropWhile_sublist _).mem member))

theorem trimSpace_trimSpace (s : String) : trimSpace (trimSpace s) = trimSpace s := by
  have front : ((trimSpace s).toList).dropWhile isSpace = (trimSpace s).toList := by
    rw [dropWhile_eq_self_iff]
    intro some
    have kept : (trimSpace s).toList <+: s.toList.dropWhile isSpace := by
      rw [trimSpace, toList_ofList, ← reverse_suffix, reverse_reverse]
      exact dropWhile_suffix _
    have first := kept.getElem some
    rw [first]
    exact fun space => absurd space (by simpa using dropWhile_get_zero_not isSpace s.toList (by grind))
  rw [trimSpace, front]
  conv_rhs => rw [trimSpace]
  rw [trimSpace, toList_ofList, reverse_reverse, dropWhile_idempotent]

end Paje.Text

import HybridX509.Lib.Ascii

/-! # Lexical paths

The components of a path and its lexical normal form, in which empty and `.` components
are dropped and `..` takes back the name before it. A path of names is its own normal
form, and every normal form is that of the path its names spell.
-/

namespace HybridX509.Lib

/-- `Path::join`: a name that is absolute stands for itself. -/
def join (directory name : String) : String :=
  if (bytes name).head? = some 47 then name
  else if directory = "" ∨ (bytes directory).getLast? = some 47 then directory ++ name
  else directory ++ "/" ++ name

/-- The pieces between the slashes. -/
def components (path : String) : List (List Char) := path.toList.splitOn '/'

/-- The component that leads to the parent directory. -/
def parent : List Char := ['.', '.']

/-- A component that is a name: not empty and not dotted. -/
def isName (component : List Char) : Bool :=
  component != [] && component != ['.'] && component != parent

/-- One component, taken from a directory whose innermost name comes first. The parent of
    the root is the root. -/
def resolve (directory : List (List Char)) (component : List Char) : List (List Char) :=
  if component = parent then directory.tail
  else if isName component then component :: directory
  else directory

def normalize (components : List (List Char)) : List (List Char) :=
  (components.foldl resolve []).reverse

/-- The absolute path of names. -/
def spell (names : List (List Char)) : String := .ofList (['/'].intercalate ([] :: names))

/-! ## Components -/

/-- A piece of a split text holds characters of the text, and no separator. -/
theorem mem_splitOn {α : Type} [BEq α] [LawfulBEq α] {separator : α} {text : List α} :
    ∀ piece ∈ text.splitOn separator, separator ∉ piece ∧ piece ⊆ text := by
  induction text with
  | nil => simp
  | cons first rest ih =>
      rw [List.splitOn_cons_eq_if_modifyHead]
      by_cases same : first = separator
      · rw [if_pos (beq_iff_eq.mpr same), List.forall_mem_cons]
        refine ⟨by simp, ?_⟩
        intro piece member
        exact ⟨(ih piece member).1, List.subset_cons_of_subset _ (ih piece member).2⟩
      · rw [if_neg (by simpa using same)]
        cases pieces : rest.splitOn separator with
        | nil => exact absurd pieces (List.splitOn_ne_nil _ _)
        | cons head others =>
            rw [pieces, List.forall_mem_cons] at ih
            obtain ⟨⟨absent, inside⟩, tail⟩ := ih
            rw [List.modifyHead_cons, List.forall_mem_cons]
            refine ⟨⟨?_, List.cons_subset_cons _ inside⟩, ?_⟩
            · rw [List.mem_cons, not_or]
              exact ⟨Ne.symm same, absent⟩
            · intro piece member
              exact ⟨(tail piece member).1, List.subset_cons_of_subset _ (tail piece member).2⟩

/-- A path is given by its components. -/
theorem components_injective : Function.Injective components := by
  intro left right same
  have joined := congrArg (['/'].intercalate) same
  simp only [components, List.intercalate_splitOn] at joined
  exact String.toList_inj.mp joined

theorem components_spell {names : List (List Char)} (plain : ∀ name ∈ names, '/' ∉ name) :
    components (spell names) = [] :: names := by
  rw [components, spell, String.toList_ofList]
  refine List.splitOn_intercalate '/' ?_ (by simp)
  exact List.forall_mem_cons.mpr ⟨by simp, plain⟩

theorem toList_spell (names : List (List Char)) :
    (spell names).toList = names.flatMap fun name => '/' :: name := by
  have joined : ∀ head : List Char, ['/'].intercalate (head :: names) =
      head ++ names.flatMap fun name => '/' :: name := by
    induction names with
    | nil => simp
    | cons name rest ih =>
        intro head
        rw [List.intercalate_cons_cons, ih]
        simp
  rw [spell, String.toList_ofList, joined, List.nil_append]

/-! ## Normal forms -/

theorem foldl_resolve_names {components directory : List (List Char)}
    (names : ∀ component ∈ components, isName component = true) :
    components.foldl resolve directory = components.reverse ++ directory := by
  induction components generalizing directory with
  | nil => rfl
  | cons component rest ih =>
      obtain ⟨name, others⟩ := List.forall_mem_cons.mp names
      have down : component ≠ parent := by
        rintro rfl
        cases name
      rw [List.foldl_cons, resolve, if_neg down, if_pos name, ih others]
      simp

/-- A path of names is its own normal form. -/
theorem normalize_of_names {components : List (List Char)}
    (names : ∀ component ∈ components, isName component = true) :
    normalize components = components := by
  simp [normalize, foldl_resolve_names names]

/-- The empty component before a leading slash changes nothing. -/
theorem normalize_nil_cons (components : List (List Char)) :
    normalize ([] :: components) = normalize components := rfl

theorem mem_foldl_resolve {components directory : List (List Char)} {component : List Char}
    (member : component ∈ components.foldl resolve directory) :
    component ∈ directory ∨ component ∈ components ∧ isName component = true := by
  induction components generalizing directory with
  | nil => exact .inl member
  | cons head rest ih =>
      rw [List.foldl_cons] at member
      rcases ih member with kept | ⟨inRest, name⟩
      · unfold resolve at kept
        split at kept
        · exact .inl (List.mem_of_mem_tail kept)
        · split at kept
          · next name =>
              rcases List.mem_cons.mp kept with rfl | old
              · exact .inr ⟨List.mem_cons_self, name⟩
              · exact .inl old
          · exact .inl kept
      · exact .inr ⟨List.mem_cons_of_mem _ inRest, name⟩

/-- A normal form keeps names of the path only. -/
theorem mem_normalize {components : List (List Char)} {component : List Char}
    (member : component ∈ normalize components) :
    component ∈ components ∧ isName component = true :=
  (mem_foldl_resolve (List.mem_reverse.mp member)).resolve_left (by simp)

/-- A normal form is spelled by its names. -/
theorem components_spell_normalize (path : String) :
    components (spell (normalize (components path))) = [] :: normalize (components path) :=
  components_spell fun _ member => (mem_splitOn _ (mem_normalize member).1).1

end HybridX509.Lib

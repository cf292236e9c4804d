/-
**Modules of conventional layouts.**

In a conventional layout the segments of the name of a module are the names that lead to its file
below the source root. The name is then derived from the path of the file, however that is written:
slashes and points that do not count change nothing.

* `Path.Pads` — **one slash or one point more** in a path.
* `Path.Pads.normalized`, `Path.normalized_of_padded` — a path that is padded says the same.
* `Path.normalized_intercalate` — what the plain path of some names says.
* `deriveModuleName_of_standsBelow` — **the name of a module** below the source root.
* `exists_names_of_deriveModuleName` — a path that has a module says names only.
* `layout_moduleName` — **conventional layouts**, and what a derived name says of its path.
-/

import Mathlib.Logic.Relation
import ElmCodec.Proofs.Build.ModuleNames

namespace ElmCodec

open ElmCodec.Path (stem withSuffix)

/-! ### Ways to write a path -/

namespace Path

/-- **One slash more, or one point**, between two components or at the start. -/
inductive Pads : Path → Path → Prop where
  | slash (front back : String) : Pads ⟨front ++ "/" ++ back⟩ ⟨front ++ "//" ++ back⟩
  | point (front back : String) : Pads ⟨front ++ "/" ++ back⟩ ⟨front ++ "/./" ++ back⟩
  | start {path : Path} : path.text.toList.head? ≠ some '/' → Pads path ⟨"./" ++ path.text⟩

theorem componentOf_ne_current (part : List Char) : componentOf? part ≠ some .current := by
  unfold componentOf?
  split
  · nofun
  · split <;> nofun

/-- What is behind the first part has no point. -/
theorem filter_filterMap_componentOf (parts : List (List Char)) :
    (parts.filterMap componentOf?).filter (· != .current) = parts.filterMap componentOf? := by
  rw [List.filter_eq_self]
  intro component member
  obtain ⟨part, _, same⟩ := List.mem_filterMap.mp member
  rw [bne_iff_ne]
  rintro rfl
  exact componentOf_ne_current part same

/-- An empty part in front of others is in front of a slash. -/
theorem rest_eq_nil_of_splitOn {letters : List Char} {rest : List (List Char)}
    (relative : letters.head? ≠ some '/') (cut : letters.splitOn '/' = [] :: rest) : rest = [] := by
  have whole : ['/'].intercalate (letters.splitOn '/') = letters := List.intercalate_splitOn '/'
  rw [cut] at whole
  cases rest with
  | nil => rfl
  | cons second more =>
    rw [← whole] at relative
    exact absurd rfl relative

/-- **Without a slash at its start** a path says what its parts say, one by one. -/
theorem normalized_of_relative {path : Path} (relative : path.text.toList.head? ≠ some '/') :
    path.normalized = path.parts.filterMap componentOf? := by
  unfold normalized components
  cases cut : path.parts with
  | nil => rfl
  | cons first rest =>
    have counted := filter_filterMap_componentOf (first :: rest)
    dsimp only
    by_cases point : first = ['.']
    · rw [point, List.filter_append, filter_filterMap_componentOf]
      rfl
    · have start : firstComponents first (!rest.isEmpty) = (componentOf? first).toList := by
        unfold firstComponents
        rw [if_neg, if_neg (by simpa using point)]
        rw [Bool.and_eq_true, List.isEmpty_iff]
        rintro ⟨rfl, others⟩
        simp [rest_eq_nil_of_splitOn relative cut] at others
      rw [start]
      cases named : componentOf? first with
      | none => rw [List.filterMap_cons_none named] at counted ⊢; exact counted
      | some component => rw [List.filterMap_cons_some named] at counted ⊢; exact counted

theorem Pads.normalized {path other : Path} (pads : Pads path other) :
    other.normalized = path.normalized := by
  cases pads with
  | slash front back =>
    have short : (Path.mk (front ++ "/" ++ back)).text.toList =
      front.toList ++ '/' :: back.toList := by simp
    have long : (Path.mk (front ++ "//" ++ back)).text.toList =
      front.toList ++ '/' :: '/' :: back.toList := by simp
    have cut : ('/' :: back.toList).splitOn '/' = [] :: back.toList.splitOn '/' :=
      List.splitOn_append_cons_self [] _
    rw [Path.normalized, components_of_slash long, cut]
    rw [Path.normalized, components_of_slash short]
    rfl
  | point front back =>
    have short : (Path.mk (front ++ "/" ++ back)).text.toList =
      front.toList ++ '/' :: back.toList := by simp
    have long : (Path.mk (front ++ "/./" ++ back)).text.toList =
      front.toList ++ '/' :: (['.'] ++ '/' :: back.toList) := by simp
    rw [Path.normalized, components_of_slash long, List.splitOn_append_cons_self]
    rw [Path.normalized, components_of_slash short]
    rfl
  | start relative =>
    have long : (Path.mk ("./" ++ path.text)).text.toList = ['.'] ++ '/' :: path.text.toList := by
      simp
    rw [normalized_of_relative relative, normalized_of_relative (by rw [long]; simp)]
    unfold parts
    rw [long, List.splitOn_append_cons_self]
    rfl

/-- **However a path is padded**, it says the same. -/
theorem normalized_of_padded {path other : Path} (padded : Relation.ReflTransGen Pads path other) :
    other.normalized = path.normalized := by
  induction padded with
  | refl => rfl
  | tail _ last ih => rw [last.normalized, ih]

/-- **The plain path of some names** says these names. -/
theorem normalized_intercalate {names : List String}
    (proper : ∀ name ∈ names, isFileName name.toList = true ∧ '/' ∉ name.toList) :
    (Path.mk (String.intercalate "/" names)).normalized = names.map .name := by
  by_cases inhabited : names = []
  · rw [inhabited]
    rfl
  have cut : (Path.mk (String.intercalate "/" names)).parts = names.map String.toList := by
    unfold parts
    rw [String.toList_intercalate]
    refine List.splitOn_intercalate '/' (fun letters member => ?_) (by simpa using inhabited)
    obtain ⟨name, inside, rfl⟩ := List.mem_map.mp member
    exact (proper name inside).2
  have relative : (Path.mk (String.intercalate "/" names)).text.toList.head? ≠ some '/' := by
    intro slash
    obtain ⟨rest, letters⟩ := List.head?_eq_some_iff.mp slash
    unfold parts at cut
    rw [letters, ← List.nil_append ('/' :: rest), List.splitOn_append_cons_self] at cut
    obtain ⟨name, _, rfl, none, _⟩ := List.map_eq_cons_iff.mp cut.symm
    have filled := (isFileName_eq_true_iff.mp (proper name List.mem_cons_self).1).1
    exact filled none
  rw [normalized_of_relative relative, cut, List.filterMap_map, ← List.filterMap_eq_map]
  exact List.filterMap_congr fun name member => componentOf_of_isFileName (proper name member).1

theorem relativeTo_eq_of_apart {path root : Path} (apart : ¬ root.normalized <+: path.normalized) :
    path.relativeTo root = path.normalized := by
  unfold relativeTo
  dsimp only
  rw [if_neg (by rwa [List.isPrefixOf_iff_prefix])]

end Path

/-! ### Names of modules -/

theorem Path.isFileName_of_isTypeName {name : String} (valid : Elm.isTypeName name = true) :
    isFileName name.toList = true :=
  isFileName_of_plain (Elm.typeName_ne_nil valid) (Elm.not_mem_typeName (by decide) valid)

theorem Path.withSuffix_of_empty {name extension : String} (none : extension.toList = []) :
    withSuffix name extension = name := by
  simp [withSuffix, String.toList_eq_nil_iff.mp none]

/-- With a plain extension a segment is the name of a file, and without one. -/
theorem Path.proper_withSuffix {name extension : String} (valid : Elm.isTypeName name = true)
    (noSlash : '/' ∉ extension.toList) : isFileName (withSuffix name extension).toList = true ∧
      '/' ∉ (withSuffix name extension).toList := by
  have plain : '/' ∉ name.toList := Elm.not_mem_typeName (by decide) valid
  by_cases filled : extension.toList = []
  · rw [withSuffix_of_empty filled]
    exact ⟨isFileName_of_isTypeName valid, plain⟩
  · refine ⟨isFileName_withSuffix filled (Elm.typeName_ne_nil valid), ?_⟩
    rw [toList_withSuffix filled]
    simp [plain, noSlash]

/-- The extension of a segment goes as it came. -/
theorem Path.stem_withSuffix_of_isTypeName {name extension : String}
    (valid : Elm.isTypeName name = true) (plain : '.' ∉ extension.toList) :
    stem (withSuffix name extension) = name := by
  by_cases filled : extension.toList = []
  · rw [withSuffix_of_empty filled]
    rcases stem_cases name with same | ⟨_, _, _, pointed⟩
    · exact same
    · have noPoint : '.' ∉ name.toList := Elm.not_mem_typeName (by decide) valid
      exact absurd (by simp [pointed]) noPoint
  · exact stem_withSuffix filled (Elm.typeName_ne_nil valid) plain

section Derived

variable {output root : Path}

/-- **The name of a module** below the source root is that of its file and its directories, if these
are segments of names of modules. -/
theorem deriveModuleName_of_standsBelow {directories : List String} {name extension : String}
    (below : output.StandsBelow root directories (withSuffix name extension))
    (valid : ∀ segment ∈ directories ++ [name], Elm.isTypeName segment = true)
    (plain : '.' ∉ extension.toList) :
    deriveModuleName output root = some (String.intercalate "." (directories ++ [name])) := by
  have noPoint : ∀ segment ∈ directories ++ [name], '.' ∉ segment.toList :=
    fun segment member => Elm.not_mem_typeName (by decide) (valid segment member)
  have last : name ∈ directories ++ [name] := by simp
  have cut : stem (withSuffix name extension) = name :=
    Path.stem_withSuffix_of_isTypeName (valid name last) plain
  obtain ⟨above, ends, proper, here⟩ := below.exists_ends
  have short : output.withoutExtension.normalized =
      root.normalized ++ (directories ++ [name]).map .name := by
    rw [ends.normalized_withoutExtension proper (by rw [cut]; exact noPoint name last), here, cut,
      List.map_append, List.append_assoc]
    rfl
  refine deriveModuleName_eq_some_iff.mpr ⟨?_, _, Path.relativeTo_eq short, rfl⟩
  rw [Elm.isModuleName, Elm.segments_intercalate (by simp) noPoint, List.all_eq_true]
  exact valid

/-- **A path that has a module** says names only, below the source root or as a whole. -/
theorem exists_names_of_deriveModuleName {moduleName : String}
    (derived : deriveModuleName output root = some moduleName) :
    ∃ names : List String, output.relativeTo root = names.map .name := by
  by_cases inside : root.normalized <+: output.normalized
  · obtain ⟨rest, below⟩ := inside
    rw [Path.relativeTo_eq below.symm]
    rcases List.eq_nil_or_concat' rest with rfl | ⟨front, last, rfl⟩
    · exact ⟨[], rfl⟩
    · obtain ⟨directories, name, rfl, rfl, _⟩ := exists_standsBelow derived below.symm
      exact ⟨directories ++ [name], by rw [List.map_append]; rfl⟩
  · obtain ⟨valid, names, found, rfl⟩ := deriveModuleName_eq_some_iff.mp derived
    have whole : output.relativeTo root = output.normalized := Path.relativeTo_eq_of_apart inside
    rw [whole]
    by_cases proper : Path.isFileName output.lastPart.1 = true
    · obtain ⟨above, last, ends, proper'⟩ := Path.exists_ends_of_isFileName proper
      have named := Path.normalized_append (ends.components_of_isFileName proper')
      obtain ⟨tail, one, short⟩ := ends.exists_tail proper'
      -- The root can only be below the directory of the file if nothing is left for the name.
      have apart : ¬ root.normalized <+: output.withoutExtension.normalized := by
        rintro ⟨rest, below⟩
        rw [Path.relativeTo_eq below.symm] at found
        have some : 0 < rest.length := by
          rw [found, List.length_map, List.length_pos_iff]
          rintro rfl
          exact absurd valid (by decide)
        have lengths := congrArg List.length (below.trans short)
        rw [List.length_append, List.length_append] at lengths
        have higher : root.normalized <+: above.normalized :=
          List.prefix_of_prefix_length_le ⟨rest, below⟩ ⟨tail, short.symm⟩ (by omega)
        exact inside (higher.trans ⟨_, named.symm⟩)
      rw [Path.relativeTo_eq_of_apart apart, short] at found
      obtain ⟨directories, _, _, here, _⟩ := List.append_eq_map_iff.mp found
      exact ⟨directories ++ [_], by rw [named, ← here, List.map_append]; rfl⟩
    · rw [Path.withoutExtension_of_nameless (Bool.eq_false_iff.mpr proper), whole] at found
      exact ⟨names, found⟩

end Derived

/-- **The names of the modules of a conventional layout.** Below a source root of any names, a file
whose directories and whose own name are segments of names of modules has the module of these
segments, with any plain extension or without one and however the two paths are padded. Every path
that has a module, below whatever source root, has one of a valid name, and it does not lead upwards
or to the top from there. -/
theorem layout_moduleName :
    (∀ {above directories : List String} {name extension : String} {root output : Path},
      (∀ part ∈ above, Path.isFileName part.toList = true ∧ '/' ∉ part.toList) →
      (∀ segment ∈ directories ++ [name], Elm.isTypeName segment = true) →
      '.' ∉ extension.toList → '/' ∉ extension.toList →
      Relation.ReflTransGen Path.Pads ⟨String.intercalate "/" above⟩ root →
      Relation.ReflTransGen Path.Pads
        ⟨String.intercalate "/" (above ++ directories ++ [withSuffix name extension])⟩ output →
      deriveModuleName output root = some (String.intercalate "." (directories ++ [name]))) ∧
    ∀ {output root : Path} {moduleName : String},
      deriveModuleName output root = some moduleName →
      Elm.isModuleName moduleName = true ∧
        .parent ∉ output.relativeTo root ∧ .top ∉ output.relativeTo root := by
  constructor
  · intro above directories name extension root output proper valid plain noSlash rooted padded
    rw [List.forall_mem_append, List.forall_mem_singleton] at valid
    have segments : ∀ part ∈ directories, Path.isFileName part.toList = true ∧ '/' ∉ part.toList :=
      fun part member => ⟨Path.isFileName_of_isTypeName (valid.1 part member),
        Elm.not_mem_typeName (by decide) (valid.1 part member)⟩
    have whole := Path.normalized_intercalate (List.forall_mem_append.mpr
      ⟨List.forall_mem_append.mpr ⟨proper, segments⟩,
        List.forall_mem_singleton.mpr (Path.proper_withSuffix valid.2 noSlash)⟩)
    have below : output.StandsBelow root directories (withSuffix name extension) := by
      rw [Path.StandsBelow, Path.normalized_of_padded padded, Path.normalized_of_padded rooted,
        whole, Path.normalized_intercalate proper, List.append_assoc, List.map_append]
    exact deriveModuleName_of_standsBelow below
      (by rwa [List.forall_mem_append, List.forall_mem_singleton]) plain
  · intro output root moduleName derived
    obtain ⟨names, whole⟩ := exists_names_of_deriveModuleName derived
    refine ⟨(deriveModuleName_eq_some_iff.mp derived).1, ?_, ?_⟩ <;> simp [whole]

/-- A path with slashes and points that do not count. -/
theorem padded_moduleName :
    Relation.ReflTransGen Path.Pads ⟨"src"⟩ ⟨"./src"⟩ ∧
      Relation.ReflTransGen Path.Pads ⟨"src/Api/Objects.elm"⟩ ⟨"./src//Api/./Objects.elm"⟩ ∧
      deriveModuleName ⟨"./src//Api/./Objects.elm"⟩ ⟨"./src"⟩ = some "Api.Objects" ∧
      .parent ∉ (Path.mk "./src//Api/./Objects.elm").relativeTo ⟨"./src"⟩ := by
  have rooted : Relation.ReflTransGen Path.Pads ⟨"src"⟩ ⟨"./src"⟩ :=
    .single (.start (by decide))
  have padded : Relation.ReflTransGen Path.Pads ⟨"src/Api/Objects.elm"⟩
      ⟨"./src//Api/./Objects.elm"⟩ :=
    .trans (.single (.start (by decide)))
      (.trans (.single (.slash "./src" "Api/Objects.elm"))
        (.single (.point "./src//Api" "Objects.elm")))
  have proper : ∀ part ∈ ["src"], Path.isFileName part.toList = true ∧ '/' ∉ part.toList := by
    decide
  have valid : ∀ segment ∈ ["Api"] ++ ["Objects"], Elm.isTypeName segment = true := by decide
  have noPoint : '.' ∉ "elm".toList := by decide
  have noSlash : '/' ∉ "elm".toList := by decide
  have derived : deriveModuleName ⟨"./src//Api/./Objects.elm"⟩ ⟨"./src"⟩ = some "Api.Objects" :=
    layout_moduleName.1 proper valid noPoint noSlash rooted padded
  exact ⟨rooted, padded, derived, (layout_moduleName.2 derived).2.1⟩

end ElmCodec

/-
**Paths that end in a name.**

A path is cut in front of its last part that counts: what stands there is empty or ends in a slash,
and what stands behind it are slashes, and points behind slashes. Changing the extension of a path
changes that part only, and the components in front of it stay.

* `Path.Idle` — what does not count at the end of a path.
* `Path.Ends` — **the cut of a path** in front of its last part.
* `Path.Ends.components` — the last component.
* `Path.ends_lastPart`, `Path.components_of_nameless` — every path is cut, or has no last part.
* `Path.stem` — a name without its extension.
* `Path.Ends.exchange` — **what becomes of a path that gets another extension**.
* `Path.ends_join`, `Path.components_join` — the path of something in a directory.
-/

import ElmCodec.Proofs.Path.Extensions

namespace ElmCodec.Path

/-! ### What does not count at the end -/

/-- Slashes, and points behind slashes. -/
inductive Idle : List Char → Prop where
  | none : Idle []
  | slash {rest : List Char} : Idle rest → Idle ('/' :: rest)
  | point {rest : List Char} : Idle rest → Idle ('/' :: '.' :: rest)

namespace Idle

variable {idle other : List Char}

theorem append (first : Idle idle) (second : Idle other) : Idle (idle ++ other) := by
  induction first with
  | none => exact second
  | slash _ ih => exact .slash ih
  | point _ ih => exact .point ih

theorem take (all : Idle idle) (count : Nat) : Idle (idle.take count) := by
  induction all generalizing count with
  | none =>
    rw [List.take_nil]
    exact .none
  | slash _ ih =>
    cases count with
    | zero => exact .none
    | succ count => exact .slash (ih count)
  | point _ ih =>
    match count with
    | 0 => exact .none
    | 1 => exact .slash .none
    | count + 2 => exact .point (ih count)

theorem dropIdle_append (all : Idle idle) (rest : List Char) :
    dropIdle (idle.reverse ++ rest) = dropIdle rest := by
  induction all generalizing rest with
  | none => rfl
  | slash _ ih => rw [List.reverse_cons, List.append_assoc, ih]; rfl
  | point _ ih =>
    rw [List.reverse_cons, List.reverse_cons, List.append_assoc, List.append_assoc, ih]
    rfl

/-- What does not count gives parts that are empty, or points. -/
theorem splitOn_append (all : Idle idle) (front : List Char) :
    ∃ parts, (∀ part ∈ parts, part = [] ∨ part = ['.']) ∧
      (front ++ idle).splitOn '/' = front.splitOn '/' ++ parts := by
  induction all generalizing front with
  | none => exact ⟨[], nofun, by rw [List.append_nil, List.append_nil]⟩
  | slash _ ih =>
    obtain ⟨parts, idleParts, cut⟩ := ih []
    refine ⟨[] :: parts, List.forall_mem_cons.mpr ⟨.inl rfl, idleParts⟩, ?_⟩
    rw [List.splitOn_append_cons_self]
    exact congrArg _ cut
  | point _ ih =>
    obtain ⟨parts, idleParts, cut⟩ := ih ['.']
    refine ⟨['.'] :: parts, List.forall_mem_cons.mpr ⟨.inr rfl, idleParts⟩, ?_⟩
    rw [List.splitOn_append_cons_self]
    exact congrArg _ cut

/-- Parts that are empty, or points, are no components. -/
theorem filterMap_eq_nil {parts : List (List Char)}
    (idleParts : ∀ part ∈ parts, part = [] ∨ part = ['.']) :
    parts.filterMap componentOf? = [] := by
  rw [List.filterMap_eq_nil_iff]
  intro part member
  rcases idleParts part member with rfl | rfl <;> rfl

/-- What is dropped from the end of a path does not count. -/
theorem of_dropIdle (backwards : List Char) :
    ∃ idle, Idle idle ∧ backwards.reverse = (dropIdle backwards).reverse ++ idle := by
  induction backwards using dropIdle.induct with
  | case1 rest ih =>
    obtain ⟨idle, all, whole⟩ := ih
    refine ⟨idle ++ ['/'], all.append (.slash .none), ?_⟩
    rw [dropIdle, List.reverse_cons, whole, List.append_assoc]
  | case2 rest ih =>
    obtain ⟨idle, all, whole⟩ := ih
    refine ⟨idle ++ ['/', '.'], all.append (.point .none), ?_⟩
    rw [dropIdle, List.reverse_cons, List.reverse_cons, whole]
    simp
  | case3 cs slash point =>
    refine ⟨[], .none, ?_⟩
    have kept : dropIdle cs = cs := by
      unfold dropIdle
      split
      · exact absurd rfl (slash _)
      · exact absurd rfl (point _)
      · rfl
    rw [kept, List.append_nil]

end Idle

/-! ### The cut in front of the last part -/

theorem isFileName_eq_true_iff {part : List Char} :
    isFileName part = true ↔ part ≠ [] ∧ part ≠ ['.'] ∧ part ≠ ['.', '.'] := by
  simp [isFileName, and_assoc]

/-- What has no points is the name of a file. -/
theorem isFileName_of_plain {part : List Char} (inhabited : part ≠ []) (plain : '.' ∉ part) :
    isFileName part = true := by
  refine isFileName_eq_true_iff.mpr ⟨inhabited, ?_, ?_⟩ <;> rintro rfl <;> simp at plain

theorem componentOf_of_isFileName {name : String} (proper : isFileName name.toList = true) :
    componentOf? name.toList = some (.name name) := by
  obtain ⟨inhabited, point, parent⟩ := isFileName_eq_true_iff.mp proper
  simp [componentOf?, inhabited, point, parent]

/-- **A path is cut in front of its last part.** -/
structure Ends (path above : Path) (last : String) : Prop where
  text : ∃ idle, Idle idle ∧
    path.text.toList = above.text.toList ++ last.toList ++ idle
  /-- The cut is at the start or behind a slash. -/
  start : above.text.toList = [] ∨ ∃ before, above.text.toList = before ++ ['/']
  plain : '/' ∉ last.toList
  inhabited : last.toList ≠ []
  counts : last.toList ≠ ['.']

/-- The parts of a path from one of its slashes on give components of their own. -/
theorem components_of_slash {path : Path} {before rest : List Char}
    (whole : path.text.toList = before ++ '/' :: rest) :
    path.components = components ⟨String.ofList (before ++ ['/'])⟩ ++
      (rest.splitOn '/').filterMap componentOf? := by
  cases cut : before.splitOn '/' with
  | nil => exact absurd cut (List.splitOn_ne_nil _ _)
  | cons first others =>
    unfold components parts
    rw [whole, String.toList_ofList, List.splitOn_append_cons_self, List.splitOn_append_cons_self,
      cut, List.splitOn_nil]
    cases behind : rest.splitOn '/' with
    | nil => exact absurd behind (List.splitOn_ne_nil _ _)
    | cons second more =>
      have further : ∀ part rest, (others ++ part :: rest).isEmpty = false := by simp
      simp [componentOf?, further]

namespace Ends

variable {path above : Path} {last : String}

theorem components (ends : path.Ends above last) :
    path.components = above.components ++ (componentOf? last.toList).toList := by
  obtain ⟨idle, all, whole⟩ := ends.text
  obtain ⟨parts, idleParts, cut⟩ := all.splitOn_append last.toList
  have nothing := Idle.filterMap_eq_nil idleParts
  rw [List.splitOn_eq_singleton ends.plain, List.singleton_append] at cut
  rcases ends.start with none | ⟨before, slash⟩
  · rw [none, List.nil_append] at whole
    have empty : above.components = [] := by simp [Path.components, Path.parts, none,
      firstComponents, componentOf?]
    rw [empty, List.nil_append]
    unfold Path.components Path.parts
    rw [whole, cut]
    simp [nothing, firstComponents, ends.inhabited, ends.counts]
  · have same : above = ⟨String.ofList (before ++ ['/'])⟩ := by
      rw [← slash, String.ofList_toList]
    rw [slash, List.append_assoc, List.append_assoc, List.singleton_append] at whole
    rw [components_of_slash whole, ← same, cut, List.filterMap_cons, nothing]
    cases componentOf? last.toList <;> rfl

/-- A name at the end is the last component. -/
theorem components_of_isFileName (ends : path.Ends above last)
    (proper : isFileName last.toList = true) :
    path.components = above.components ++ [.name last] := by
  rw [ends.components, componentOf_of_isFileName proper]
  rfl

/-- The last part is where the cut is. -/
theorem lastPart (ends : path.Ends above last) :
    path.lastPart = (last.toList, above.text.toList.reverse) := by
  obtain ⟨idle, all, whole⟩ := ends.text
  have all' : ∀ c ∈ last.toList.reverse, (c != '/') = true := by
    intro c member
    rw [bne_iff_ne]
    rintro rfl
    exact ends.plain (List.mem_reverse.mp member)
  have stops : above.text.toList.reverse.takeWhile (· != '/') = [] ∧
      above.text.toList.reverse.dropWhile (· != '/') = above.text.toList.reverse := by
    rcases ends.start with none | ⟨before, slash⟩
    · rw [none]
      exact ⟨rfl, rfl⟩
    · rw [slash, List.reverse_append, List.reverse_singleton, List.singleton_append]
      exact ⟨rfl, rfl⟩
  unfold Path.lastPart backwards
  rw [whole, List.reverse_append, all.dropIdle_append, List.reverse_append,
    dropIdle_reverse_append ends.plain ends.inhabited ends.counts,
    List.takeWhile_append_of_pos all', List.dropWhile_append_of_pos all', stops.1, stops.2,
    List.append_nil, List.reverse_reverse]

end Ends

/-- **Every path is cut** in front of its last part, if that is a name or leads upwards. -/
theorem ends_lastPart {path : Path} (inhabited : path.lastPart.1 ≠ [])
    (counts : path.lastPart.1 ≠ ['.']) :
    path.Ends ⟨String.ofList path.lastPart.2.reverse⟩ (String.ofList path.lastPart.1) := by
  refine ⟨?_, ?_, ?_, by rwa [String.toList_ofList], by rwa [String.toList_ofList]⟩
  · obtain ⟨idle, all, whole⟩ := Idle.of_dropIdle path.text.toList.reverse
    refine ⟨idle, all, ?_⟩
    have cut : path.backwards = path.lastPart.1.reverse ++ path.lastPart.2 := by
      simp [lastPart]
    rw [List.reverse_reverse] at whole
    rw [whole, String.toList_ofList, String.toList_ofList, ← List.reverse_reverse path.lastPart.1,
      ← List.reverse_append, ← cut]
    rfl
  · rw [String.toList_ofList]
    have stops := List.head?_dropWhile_not (· != '/') path.backwards
    cases behind : path.lastPart.2 with
    | nil => exact .inl rfl
    | cons c rest =>
      have cut : path.backwards.dropWhile (· != '/') = c :: rest := behind
      rw [cut] at stops
      have slash : c = '/' := by simpa using stops
      exact .inr ⟨rest.reverse, by rw [slash, List.reverse_cons]⟩
  · rw [String.toList_ofList]
    intro member
    have other := List.mem_takeWhile_imp (List.mem_reverse.mp member)
    simp at other

/-- Where nothing is to be dropped all is kept. -/
theorem dropIdle_eq_self {backwards : List Char} (slash : ∀ rest, backwards ≠ '/' :: rest)
    (point : ∀ rest, backwards ≠ '.' :: '/' :: rest) : dropIdle backwards = backwards := by
  unfold dropIdle
  split
  · exact absurd rfl (slash _)
  · exact absurd rfl (point _)
  · rfl

/-- What does not count is dropped as a whole. -/
theorem dropIdle_stops (backwards rest : List Char) :
    dropIdle backwards ≠ '/' :: rest ∧ dropIdle backwards ≠ '.' :: '/' :: rest := by
  induction backwards using dropIdle.induct with
  | case1 _ ih => rwa [dropIdle]
  | case2 _ ih => rwa [dropIdle]
  | case3 cs slash point =>
    rw [dropIdle_eq_self slash point]
    exact ⟨slash rest, point rest⟩

/-- A path whose last part does not count is nothing, slashes, or a point. -/
theorem components_of_idle {path : Path}
    (idle : path.lastPart.1 = [] ∨ path.lastPart.1 = ['.']) :
    ∀ component ∈ path.components, component = .top ∨ component = .current := by
  have short : path.backwards = path.lastPart.1.reverse := by
    have cut : path.backwards = path.lastPart.1.reverse ++ path.lastPart.2 := by simp [lastPart]
    have stops := List.head?_dropWhile_not (· != '/') path.backwards
    cases behind : path.lastPart.2 with
    | nil => rw [cut, behind, List.append_nil]
    | cons c rest =>
      have slash : c = '/' := by
        have cut' : path.backwards.dropWhile (· != '/') = c :: rest := behind
        rw [cut'] at stops
        simpa using stops
      obtain ⟨noSlash, noPoint⟩ := dropIdle_stops path.text.toList.reverse rest
      rw [behind, slash] at cut
      rcases idle with none | point
      · rw [none] at cut
        exact absurd cut noSlash
      · rw [point] at cut
        exact absurd cut noPoint
  obtain ⟨rest, all, whole⟩ := Idle.of_dropIdle path.text.toList.reverse
  have whole : path.text.toList = path.lastPart.1 ++ rest := by
    rw [← List.reverse_reverse path.lastPart.1, ← short, ← List.reverse_reverse path.text.toList,
      whole]
    rfl
  have plain : '/' ∉ path.lastPart.1 := by
    rcases idle with none | point
    · simp [none]
    · simp [point]
  obtain ⟨parts, idleParts, cut⟩ := all.splitOn_append path.lastPart.1
  have nothing := Idle.filterMap_eq_nil idleParts
  rw [List.splitOn_eq_singleton plain, List.singleton_append] at cut
  unfold components Path.parts
  rw [whole, cut]
  rcases idle with none | point
  · cases parts <;> simp [none, nothing, firstComponents, componentOf?]
  · simp [point, nothing, firstComponents]

/-- **A path without a name at its end** has no name among its components, or it leads upwards. -/
theorem components_of_nameless {path : Path} (nameless : isFileName path.lastPart.1 = false) :
    (∀ component ∈ path.components, component = .top ∨ component = .current) ∨
      ∃ above, path.components = above ++ [.parent] := by
  by_cases idle : path.lastPart.1 = [] ∨ path.lastPart.1 = ['.']
  · exact .inl (components_of_idle idle)
  · rw [not_or] at idle
    have parent : path.lastPart.1 = ['.', '.'] := by
      simpa [isFileName, idle.1, idle.2] using nameless
    refine .inr ⟨components ⟨String.ofList path.lastPart.2.reverse⟩, ?_⟩
    rw [(ends_lastPart idle.1 idle.2).components, String.toList_ofList, parent]
    rfl

/-- A path with a name at its end is cut in front of it. -/
theorem exists_ends_of_isFileName {path : Path} (proper : isFileName path.lastPart.1 = true) :
    ∃ above last, path.Ends above last ∧ isFileName last.toList = true := by
  obtain ⟨inhabited, counts, _⟩ := isFileName_eq_true_iff.mp proper
  exact ⟨_, _, ends_lastPart inhabited counts, by rwa [String.toList_ofList]⟩

/-! ### Extensions -/

/-- The components in front of the cut stay, whatever is put there, and that is one at most. -/
theorem Ends.components_put {path above : Path} {last tail : String} (ends : path.Ends above last)
    (plain : '/' ∉ tail.toList) : ∃ rest, rest.length ≤ 1 ∧
      (Path.mk (above.text ++ tail)).components = above.components ++ rest := by
  have one : ∀ part, (componentOf? part).toList.length ≤ 1 := by
    intro part
    cases componentOf? part <;> simp
  rcases ends.start with none | ⟨before, slash⟩
  · have empty : above.components = [] := by simp [Path.components, Path.parts, none,
      firstComponents, componentOf?]
    have whole : (Path.mk (above.text ++ tail)).parts = [tail.toList] := by
      unfold Path.parts
      rw [String.toList_append, none, List.nil_append, List.splitOn_eq_singleton plain]
    refine ⟨firstComponents tail.toList false, ?_, ?_⟩
    · unfold firstComponents
      rw [Bool.and_false, if_neg (by simp)]
      split
      · exact le_rfl
      · exact one _
    · rw [empty, List.nil_append, Path.components, whole]
      exact List.append_nil _
  · have whole : (Path.mk (above.text ++ tail)).text.toList = before ++ '/' :: tail.toList := by
      simp [slash]
    have same : above = ⟨String.ofList (before ++ ['/'])⟩ := by
      rw [← slash, String.ofList_toList]
    refine ⟨(componentOf? tail.toList).toList, one _, ?_⟩
    rw [components_of_slash whole, ← same, List.splitOn_eq_singleton plain]
    rw [List.filterMap_cons, List.filterMap_nil]
    cases componentOf? tail.toList <;> rfl

/-- A name without its extension. -/
def stem (name : String) : String := String.ofList (splitName name.toList).1

/-- A name is its stem, or its stem in front of a point. -/
theorem stem_cases (name : String) : stem name = name ∨ ∃ extension, '.' ∉ extension ∧
    (stem name).toList ≠ [] ∧ name.toList = (stem name).toList ++ '.' :: extension := by
  unfold stem
  rcases splitName_cases name.toList with whole | ⟨front, extension, cut, inhabited, plain, whole⟩
  · rw [whole]
    exact .inl String.ofList_toList
  · rw [cut, String.toList_ofList]
    exact .inr ⟨extension, plain, inhabited, whole⟩

theorem stem_ne_nil {name : String} (inhabited : name.toList ≠ []) : (stem name).toList ≠ [] := by
  rcases stem_cases name with same | ⟨_, _, filled, _⟩
  · rwa [same]
  · exact filled

theorem not_mem_stem {name : String} {c : Char} (plain : c ∉ name.toList) :
    c ∉ (stem name).toList := by
  rcases stem_cases name with same | ⟨_, _, _, whole⟩
  · rwa [same]
  · rw [whole, List.mem_append, not_or] at plain
    exact plain.1

/-- A name with an extension behind it, if there is one. -/
def withSuffix (name extension : String) : String :=
  if extension.isEmpty then name else name ++ "." ++ extension

section Suffix

variable {front extension : String} (filled : extension.toList ≠ [])
include filled

theorem toList_withSuffix :
    (withSuffix front extension).toList = front.toList ++ '.' :: extension.toList := by
  have put : extension.isEmpty = false := by simpa using filled
  simp [withSuffix, put]

theorem withSuffix_injective {other : String}
    (same : withSuffix front extension = withSuffix other extension) : front = other := by
  have letters := congrArg String.toList same
  rw [toList_withSuffix filled, toList_withSuffix filled] at letters
  exact String.toList_inj.mp (List.append_cancel_right letters)

theorem isFileName_withSuffix (inhabited : front.toList ≠ []) :
    isFileName (withSuffix front extension).toList = true := by
  rw [toList_withSuffix filled, isFileName_eq_true_iff]
  cases letters : front.toList with
  | nil => exact absurd letters inhabited
  | cons c rest =>
    refine ⟨by simp, by simp, fun points => ?_⟩
    cases rest <;> simp_all

/-- A name is cut in front of the extension that it has got. -/
theorem splitName_withSuffix (inhabited : front.toList ≠ []) (plain : '.' ∉ extension.toList) :
    splitName (withSuffix front extension).toList = (front.toList, some extension.toList) := by
  rw [toList_withSuffix filled, splitName_append inhabited plain]

theorem stem_withSuffix (inhabited : front.toList ≠ []) (plain : '.' ∉ extension.toList) :
    stem (withSuffix front extension) = front := by
  rw [stem, splitName_withSuffix filled inhabited plain, String.ofList_toList]

/-- A stem without points is that of a name with a plain extension. -/
theorem not_mem_extension (plain : '.' ∉ (stem (withSuffix front extension)).toList) :
    '.' ∉ extension.toList := by
  have whole : (withSuffix front extension).toList = _ := toList_withSuffix filled
  have counts := congrArg (List.count '.') whole
  rw [← List.count_eq_zero] at plain ⊢
  rw [List.count_append, List.count_cons_self] at counts
  rcases stem_cases (withSuffix front extension) with same | ⟨other, plain', _, cut⟩
  · rw [same] at plain
    omega
  · rw [cut, List.count_append, List.count_cons_self, List.count_eq_zero.mpr plain', plain] at counts
    omega

end Suffix

/-- As many characters as an extension has are taken off a text that ends in it, but for what does
not count. -/
theorem take_back (above front extension idle : List Char) :
    (above ++ (front ++ '.' :: extension) ++ idle).take
        ((above ++ (front ++ '.' :: extension) ++ idle).length - extension.length) =
      above ++ (front ++ '.' :: extension.take idle.length) ++
        idle.take (idle.length - extension.length) := by
  have whole : above ++ (front ++ '.' :: extension) ++ idle =
      above ++ (front ++ '.' :: (extension ++ idle)) := by simp
  have count : (above ++ (front ++ '.' :: (extension ++ idle))).length - extension.length =
      above.length + (front.length + (idle.length + 1)) := by
    simp only [List.length_append, List.length_cons]
    omega
  rw [whole, count, List.take_length_add_append, List.take_length_add_append, List.take_succ_cons,
    List.take_append]
  simp

theorem ne_point_of_point {front : List Char} (inhabited : front ≠ []) (rest : List Char) :
    front ++ '.' :: rest ≠ ['.'] := by
  intro point
  cases front with
  | nil => exact inhabited rfl
  | cons c others => simp at point

/-- What has a point that is not its first character is a name, or two points. -/
theorem isFileName_of_point {front : List Char} (inhabited : front ≠ []) (rest : List Char) :
    isFileName (front ++ '.' :: rest) = true ∨ front = ['.'] ∧ rest = [] := by
  by_cases parent : front ++ '.' :: rest = ['.', '.']
  · right
    cases front with
    | nil => exact absurd rfl inhabited
    | cons c others => cases others <;> simp_all
  · left
    simp [isFileName, parent, ne_point_of_point inhabited rest]

namespace Ends

variable {path above : Path} {name : String}
variable (ends : path.Ends above name)
include ends

/-- Another name in the same place. -/
theorem put {last : String} (plain : '/' ∉ last.toList) (proper : isFileName last.toList = true) :
    Ends ⟨above.text ++ last⟩ above last := by
  obtain ⟨inhabited, counts, _⟩ := isFileName_eq_true_iff.mp proper
  exact ⟨⟨[], .none, by simp⟩, ends.start, plain, inhabited, counts⟩

/-- Without a name at its end a path keeps its end. -/
theorem setExtension_of_parent (parent : name = "..") (extension : String) :
    path.setExtension extension = path := by
  have nameless : isFileName path.lastPart.1 = false := by
    rw [ends.lastPart, parent]
    rfl
  simp [setExtension, nameless]

variable (proper : isFileName name.toList = true)
include proper

theorem setExtension (extension : String) :
    path.setExtension extension = ⟨above.text ++ withSuffix (stem name) extension⟩ := by
  unfold Path.setExtension withSuffix stem
  rw [ends.lastPart]
  simp only [proper, if_true, List.reverse_reverse]
  congr 1
  rw [← String.toList_inj]
  split <;> simp

/-- Taken off the end of a path, the characters of its extension leave the stem of its name, and as
much of the rest as did not count. -/
theorem dropExtension : ∃ rest, path.dropExtension.Ends above rest ∧
    (isFileName rest.toList = true ∧ stem rest = stem name ∨ rest = ".." ∧ stem name = ".") := by
  have found : path.extension? = (splitName name.toList).2.map String.ofList := by
    unfold extension?
    rw [ends.lastPart]
    simp [proper]
  unfold Path.dropExtension stem
  rcases splitName_cases name.toList with whole | ⟨front, extension, cut, inhabited, plain, whole⟩
  · rw [found, whole]
    exact ⟨name, ends, .inl ⟨proper, by rw [whole]⟩⟩
  · rw [found, cut]
    obtain ⟨idle, all, text⟩ := ends.text
    have noSlash : '/' ∉ front ∧ '/' ∉ extension := by
      have plain' := ends.plain
      rw [whole] at plain'
      simpa using plain'
    refine ⟨String.ofList (front ++ '.' :: extension.take idle.length), ?_, ?_⟩
    · refine ⟨⟨_, all.take (idle.length - extension.length), ?_⟩, ends.start, ?_, by simp, ?_⟩
      · rw [Option.map_some]
        dsimp only
        rw [String.length_ofList, String.toList_ofList, String.toList_ofList,
          ← String.length_toList, text, whole, take_back]
      · rw [String.toList_ofList]
        have shorter : '/' ∉ extension.take idle.length :=
          fun member => noSlash.2 (List.mem_of_mem_take member)
        simp [noSlash.1, shorter]
      · rw [String.toList_ofList]
        exact ne_point_of_point inhabited _
    · have plain' : '.' ∉ extension.take idle.length :=
        fun member => plain (List.mem_of_mem_take member)
      rw [String.toList_ofList, splitName_append inhabited plain']
      rcases isFileName_of_point inhabited (extension.take idle.length) with proper | parent
      · exact .inl ⟨proper, rfl⟩
      · rw [parent.1, parent.2]
        exact .inr ⟨rfl, rfl⟩

/-- **What becomes of a path that gets an extension**: the stem of its name, with the extension, in
the same place. Of a name that is two points and an extension, two points are left. -/
theorem exchange (extension : String) :
    path.dropExtension.setExtension extension =
        ⟨above.text ++ withSuffix (stem name) extension⟩ ∨
      stem name = "." ∧ (path.dropExtension.setExtension extension).Ends above ".." := by
  obtain ⟨rest, ends', cases⟩ := ends.dropExtension proper
  rcases cases with ⟨proper', same⟩ | ⟨rfl, same⟩
  · exact .inl (by rw [ends'.setExtension proper', same])
  · exact .inr ⟨same, by rw [ends'.setExtension_of_parent rfl]; exact ends'⟩

end Ends

/-- Without a name at its end a path has no extension. -/
theorem withoutExtension_of_nameless {path : Path} (nameless : isFileName path.lastPart.1 = false) :
    path.withoutExtension = path := by
  have none : path.extension? = none := by simp [extension?, nameless]
  have kept : path.dropExtension = path := by simp [dropExtension, none]
  simp [withoutExtension, kept, setExtension, nameless]

/-! ### Something in a directory -/

theorem nameComponent_injective : Function.Injective Component.name :=
  fun _ _ => Component.name.inj

/-- The path of a directory with a slash at its end. -/
def slashed (path : Path) : Path :=
  if path.text.toList.getLast? = some '/' then path else ⟨path.text ++ "/"⟩

section Join

variable {path : Path} (inhabited : path.text.toList ≠ [])
include inhabited

theorem join_eq (name : String) : path.join name = ⟨path.slashed.text ++ name⟩ := by
  have none : path.text.isEmpty = false := by simpa using inhabited
  unfold join slashed
  by_cases slash : path.text.toList.getLast? = some '/' <;> simp [none, slash]

theorem components_slashed : path.slashed.components = path.components := by
  unfold slashed
  split
  · rfl
  · have whole : (Path.mk (path.text ++ "/")).text.toList = path.text.toList ++ '/' :: [] := by simp
    unfold components parts
    rw [whole, List.splitOn_append_cons_self, List.splitOn_nil]
    cases cut : path.text.toList.splitOn '/' with
    | nil => exact absurd cut (List.splitOn_ne_nil _ _)
    | cons first others =>
      have first_ne : others = [] → first ≠ [] := by
        rintro rfl rfl
        have whole : ['/'].intercalate (path.text.toList.splitOn '/') = path.text.toList :=
          List.intercalate_splitOn '/'
        rw [cut] at whole
        exact inhabited whole.symm
      have nothing : [([] : List Char)].filterMap componentOf? = [] := rfl
      cases others with
      | nil => simp [firstComponents, componentOf?, first_ne rfl]
      | cons second more =>
        dsimp only [List.cons_append]
        rw [← List.cons_append, List.filterMap_append, nothing, List.append_nil]
        rfl

/-- The path of something in a directory is cut in front of its name. -/
theorem ends_join {name : String} (plain : '/' ∉ name.toList)
    (proper : isFileName name.toList = true) : (path.join name).Ends path.slashed name := by
  obtain ⟨filled, counts, _⟩ := isFileName_eq_true_iff.mp proper
  refine ⟨⟨[], .none, ?_⟩, .inr ?_, plain, filled, counts⟩
  · rw [join_eq inhabited, List.append_nil, String.toList_append]
  · unfold slashed
    split
    · next slash => exact List.getLast?_eq_some_iff.mp slash
    · exact ⟨path.text.toList, by simp⟩

theorem components_join {name : String} (plain : '/' ∉ name.toList)
    (proper : isFileName name.toList = true) :
    (path.join name).components = path.components ++ [.name name] := by
  rw [(ends_join inhabited plain proper).components_of_isFileName proper,
    components_slashed inhabited]

end Join

/-- The directory of a file is what stands in front of its name, up to what does not count. -/
theorem Ends.exists_idle {path above : Path} {last : String} (ends : path.Ends above last)
    (inhabited : above.text.toList ≠ []) (relative : above.text.toList.head? ≠ some '/') :
    ∃ idle, Idle idle ∧ above.text.toList = path.directory.text.toList ++ idle ∧
      path.directory.text.toList ≠ [] := by
  obtain ⟨idle, all, whole⟩ := Idle.of_dropIdle above.text.toList.reverse
  rw [List.reverse_reverse] at whole
  have kept : (dropIdle above.text.toList.reverse).reverse ≠ [] := by
    intro none
    rw [none, List.nil_append] at whole
    cases all with
    | none => exact inhabited whole
    | slash _ => exact relative (by rw [whole]; rfl)
    | point _ => exact relative (by rw [whole]; rfl)
  have same : path.directory.text.toList = (dropIdle above.text.toList.reverse).reverse := by
    have filled : (dropIdle above.text.toList.reverse).reverse.isEmpty = false := by
      simpa using kept
    have holder : path.parent = ⟨String.ofList (dropIdle above.text.toList.reverse).reverse⟩ := by
      unfold parent
      rw [ends.lastPart]
      simp only [filled, Bool.false_and, Bool.false_eq_true, if_false]
    have named : (String.ofList (dropIdle above.text.toList.reverse).reverse).isEmpty = false := by
      simpa using kept
    rw [directory, holder, if_neg (by simp [named]), String.toList_ofList]
  rw [same]
  exact ⟨idle, all, whole, kept⟩

/-- A path that has nothing to drop is the directory of what is in it. -/
theorem directory_join_of_settled {path : Path} (inhabited : path.text.toList ≠ [])
    (settled : dropIdle path.text.toList.reverse = path.text.toList.reverse) {name : String}
    (plain : '/' ∉ name.toList) (proper : isFileName name.toList = true) :
    (path.join name).directory = path := by
  have unslashed : path.text.toList.getLast? ≠ some '/' := by
    intro slash
    obtain ⟨before, whole⟩ := List.getLast?_eq_some_iff.mp slash
    refine (dropIdle_stops path.text.toList.reverse before.reverse).1 ?_
    rw [settled, whole, List.reverse_append]
    rfl
  have behind : path.slashed.text.toList.reverse = '/' :: path.text.toList.reverse := by
    rw [slashed, if_neg unslashed]
    simp
  have named : path.text ≠ "" := by simpa using inhabited
  have holder : (path.join name).parent = path := by
    unfold parent
    rw [(ends_join inhabited plain proper).lastPart, behind, dropIdle, settled]
    simp [named]
  rw [directory, holder, if_neg (by simp [named])]

/-- **The directory of something in a directory** that a file is in. -/
theorem directory_join_directory (path : Path) {name : String} (plain : '/' ∉ name.toList)
    (proper : isFileName name.toList = true) :
    (path.directory.join name).directory = path.directory := by
  by_cases none : path.parent.text.isEmpty
  · have here : path.directory = ⟨"."⟩ := if_pos none
    rw [here]
    exact directory_join_of_settled (by decide) (by decide) plain proper
  · have here : path.directory = path.parent := if_neg none
    rw [here]
    unfold parent at none
    rw [parent]
    dsimp only at none ⊢
    split at none
    · next top =>
      -- Nothing is in front of the top.
      rw [if_pos top]
      have behind : (Path.mk "/").slashed.text.toList.reverse = ['/'] := by decide
      have absolute : ((Path.mk "/").join name).text.toList.head? = some '/' := by
        rw [join_eq (by decide)]
        simp [slashed]
      have holder : ((Path.mk "/").join name).parent = ⟨"/"⟩ := by
        unfold parent
        rw [(ends_join (by decide) plain proper).lastPart, behind]
        simp [dropIdle, absolute]
      rw [directory, holder]
      rfl
    · next other =>
      rw [if_neg other]
      refine directory_join_of_settled (by simpa using none) ?_ plain proper
      rw [String.toList_ofList, List.reverse_reverse]
      exact dropIdle_eq_self (fun rest => (dropIdle_stops _ rest).1)
        fun rest => (dropIdle_stops _ rest).2

/-- The path of something in directories within a directory. -/
theorem components_foldl_join {path : Path} (inhabited : path.text.toList ≠ [])
    {names : List String}
    (proper : ∀ name ∈ names, isFileName name.toList = true ∧ '/' ∉ name.toList) :
    (names.foldl join path).text.toList ≠ [] ∧
      (names.foldl join path).components = path.components ++ names.map .name := by
  induction names generalizing path with
  | nil => exact ⟨inhabited, (List.append_nil _).symm⟩
  | cons name rest ih =>
    rw [List.forall_mem_cons] at proper
    have inhabited' : (path.join name).text.toList ≠ [] :=
      List.IsPrefix.ne_nil (join_starts path name) inhabited
    obtain ⟨filled, whole⟩ := ih inhabited' proper.2
    refine ⟨filled, ?_⟩
    rw [List.foldl_cons, whole, components_join inhabited proper.1.2 proper.1.1, List.append_assoc]
    rfl

end ElmCodec.Path

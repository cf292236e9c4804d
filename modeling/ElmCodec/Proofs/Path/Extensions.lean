/-
**The last part of a path and its extension.**

Slashes, and points behind slashes, at the end of a path do not count. Characters at the end of a
path that hold no slash therefore belong to its last part, unless they are a point alone.

* `Path.lastPart_eq` — **the last part of a path**, from what is known of its end.
* `Path.lastPart_of_parts` — the last of the parts between slashes, if it counts.
* `Path.parts_join` — the parts of the path of something in a directory.
* `Path.splitName_cases`, `Path.splitName_append` — where a name is cut.
* `Path.splitName_ends` — an extension is at the end of its name, behind the last point.
* `Path.withExtension_ends` — a path that gets an extension ends in it.
* `Path.extension_apart` — **one extension is not taken for another**, if neither ends in the other.
-/

import Mathlib.Data.List.Infix
import Mathlib.Data.List.TakeWhile
import ElmCodec.Path

namespace ElmCodec.Path

/-! ### The last part -/

theorem dropIdle_reverse_append {last : List Char} (plain : '/' ∉ last) (inhabited : last ≠ [])
    (counts : last ≠ ['.']) (rest : List Char) :
    dropIdle (last.reverse ++ rest) = last.reverse ++ rest := by
  have plain' : '/' ∉ last.reverse := fun member => plain (List.mem_reverse.mp member)
  have counts' : last.reverse ≠ ['.'] := fun point => counts (List.reverse_injective point)
  cases backwards : last.reverse with
  | nil => exact absurd (List.reverse_eq_nil_iff.mp backwards) inhabited
  | cons c more =>
    rw [backwards, List.mem_cons, not_or] at plain'
    rw [backwards] at counts'
    unfold dropIdle
    split
    · next same =>
      exact absurd (List.cons.inj same).1.symm plain'.1
    · next same =>
      obtain ⟨rfl, tail⟩ := List.cons.inj same
      cases more with
      | nil => exact absurd rfl counts'
      | cons d more =>
        have slash : d = '/' := (List.cons.inj tail).1
        exact absurd (slash ▸ List.mem_cons_self) plain'.2
    · rfl

/-- **The last part of a path** holds the characters at its end, if there is no slash in them and
they are more than a point. -/
theorem lastPart_eq {path : Path} {before last : List Char}
    (ends : path.text.toList = before ++ last) (plain : '/' ∉ last) (inhabited : last ≠ [])
    (counts : last ≠ ['.']) :
    path.lastPart.1 = (before.reverse.takeWhile (· != '/')).reverse ++ last := by
  have all : ∀ c ∈ last.reverse, (c != '/') = true := by
    intro c member
    rw [bne_iff_ne]
    rintro rfl
    exact plain (List.mem_reverse.mp member)
  unfold lastPart backwards
  rw [ends, List.reverse_append, dropIdle_reverse_append plain inhabited counts,
    List.takeWhile_append_of_pos all, List.reverse_append, List.reverse_reverse]

/-- A path is one part, or its last part stands behind its last slash. -/
theorem parts_cases (path : Path) :
    path.parts = [path.text.toList] ∧ '/' ∉ path.text.toList ∨
      ∃ before last, path.text.toList = before ++ '/' :: last ∧ '/' ∉ last ∧
        path.parts = before.splitOn '/' ++ [last] := by
  unfold parts
  by_cases slash : '/' ∈ path.text.toList
  · obtain ⟨last, before, same, plain⟩ := List.eq_append_cons_of_mem (List.mem_reverse.mpr slash)
    have forwards : path.text.toList = before.reverse ++ '/' :: last.reverse := by
      rw [← List.reverse_reverse path.text.toList, same]
      simp
    have plain : '/' ∉ last.reverse := fun member => plain (List.mem_reverse.mp member)
    refine .inr ⟨before.reverse, last.reverse, forwards, plain, ?_⟩
    rw [forwards, List.splitOn_append_cons_self, List.splitOn_eq_singleton plain]
  · exact .inl ⟨List.splitOn_eq_singleton slash, slash⟩

/-- The last of the parts between slashes is the last part of the path, if it counts. -/
theorem lastPart_of_parts {path : Path} {above : List (List Char)} {last : List Char}
    (parts : path.parts = above ++ [last]) (inhabited : last ≠ []) (counts : last ≠ ['.']) :
    path.lastPart.1 = last := by
  rcases path.parts_cases with ⟨whole, plain⟩ | ⟨before, other, ends, plain, whole⟩
  · have same : [] ++ [path.text.toList] = above ++ [last] := whole.symm.trans parts
    obtain rfl := (List.cons.inj (List.append_inj' same rfl).2).1
    exact lastPart_eq (List.nil_append _).symm plain inhabited counts
  · obtain ⟨_, same⟩ := List.append_inj' (whole.symm.trans parts) rfl
    obtain rfl := (List.cons.inj same).1
    have ends : path.text.toList = (before ++ ['/']) ++ other := by simp [ends]
    simp [lastPart_eq ends plain inhabited counts]

/-- The path of something in a directory starts as that of the directory. -/
theorem join_starts (path : Path) (name : String) :
    path.text.toList <+: (path.join name).text.toList := by
  unfold join
  split
  · next none => simp [String.isEmpty_iff.mp none]
  · split <;> simp [List.append_assoc]

/-- A path of something in a directory has the parts of that path and one more, but for an empty
part behind a slash at the end. -/
theorem parts_join {path : Path} {name : String} (inhabited : path.text.toList ≠ [])
    (plain : '/' ∉ name.toList) :
    (path.join name).parts = path.parts ++ [name.toList] ∨
      ∃ above, path.parts = above ++ [[]] ∧ (path.join name).parts = above ++ [name.toList] := by
  have none : path.text.isEmpty = false := by simpa using inhabited
  unfold join parts
  by_cases slash : path.text.toList.getLast? = some '/'
  · obtain ⟨before, ends⟩ := List.getLast?_eq_some_iff.mp slash
    have whole : (path.text ++ name).toList = before ++ '/' :: name.toList := by simp [ends]
    right
    refine ⟨before.splitOn '/', ?_, ?_⟩
    · rw [ends, List.splitOn_append_cons_self, List.splitOn_nil]
    · simp only [none, slash, Bool.false_eq_true, if_false, beq_self_eq_true, if_true]
      rw [whole, List.splitOn_append_cons_self, List.splitOn_eq_singleton plain]
  · have whole : (path.text ++ "/" ++ name).toList = path.text.toList ++ '/' :: name.toList := by
      simp
    left
    simp only [none, slash, Bool.false_eq_true, if_false, beq_iff_eq]
    rw [whole, List.splitOn_append_cons_self, List.splitOn_eq_singleton plain]

/-! ### Extensions -/

/-- A name is cut at its last point, or it has no extension. -/
theorem splitName_cases (name : List Char) :
    splitName name = (name, none) ∨ ∃ front extension, splitName name = (front, some extension) ∧
      front ≠ [] ∧ '.' ∉ extension ∧ name = front ++ '.' :: extension := by
  unfold splitName
  cases behind : name.reverse.dropWhile (· != '.') with
  | nil => exact .inl rfl
  | cons point front =>
    have isPoint : point = '.' := by
      have stops := List.head?_dropWhile_not (· != '.') name.reverse
      rw [behind] at stops
      simpa using stops
    subst isPoint
    by_cases none : front.isEmpty = true
    · exact .inl (by simp [none])
    · right
      have whole : name = front.reverse ++ '.' :: (name.reverse.takeWhile (· != '.')).reverse := by
        have cut := List.takeWhile_append_dropWhile (p := (· != '.')) (l := name.reverse)
        rw [behind] at cut
        rw [← List.reverse_inj, List.reverse_append, List.reverse_cons, List.reverse_reverse,
          List.reverse_reverse, List.append_assoc, List.singleton_append, cut]
      refine ⟨front.reverse, _, by simp [none], by simpa using none, fun member => ?_, whole⟩
      have other := List.mem_takeWhile_imp (List.mem_reverse.mp member)
      simp at other

/-- **An extension is at the end of its name**, behind the last point. -/
theorem splitName_ends {name extension : List Char}
    (split : (splitName name).2 = some extension) :
    '.' :: extension <:+ name ∧ '.' ∉ extension := by
  rcases splitName_cases name with whole | ⟨front, other, cut, _, plain, whole⟩
  · rw [whole] at split
    cases split
  · rw [cut] at split
    obtain rfl := Option.some.inj split
    exact ⟨⟨front, whole.symm⟩, plain⟩

/-- A point and an extension without points, behind something, are cut off again. -/
theorem splitName_append {front extension : List Char} (inhabited : front ≠ [])
    (plain : '.' ∉ extension) :
    splitName (front ++ '.' :: extension) = (front, some extension) := by
  have all : ∀ c ∈ extension.reverse, (c != '.') = true := by
    intro c member
    rw [bne_iff_ne]
    rintro rfl
    exact plain (List.mem_reverse.mp member)
  unfold splitName
  rw [List.reverse_append, List.reverse_cons, List.append_assoc, List.singleton_append,
    List.dropWhile_append_of_pos all, List.takeWhile_append_of_pos all]
  simp [inhabited]

theorem extension_eq_some_iff {path : Path} {extension : String} :
    path.extension? = some extension ↔ isFileName path.lastPart.1 = true ∧
      (splitName path.lastPart.1).2 = some extension.toList := by
  unfold extension?
  by_cases proper : isFileName path.lastPart.1 = true
  · simp only [proper, if_true, true_and, Option.map_eq_some_iff]
    constructor
    · rintro ⟨cs, split, rfl⟩
      rw [split, String.toList_ofList]
    · exact fun split => ⟨_, split, String.ofList_toList⟩
  · simp [proper]

/-- A path that gets an extension ends in it, or it has no name to put the extension behind. -/
theorem withExtension_ends {path output : Path} {extension : String}
    (made : path.withExtension? extension = some output) (inhabited : extension.toList ≠ []) :
    output.extension? = none ∨ '.' :: extension.toList <:+ output.lastPart.1 := by
  unfold withExtension? at made
  split at made
  · cases made
  · next plain =>
    obtain rfl := Option.some.inj made
    by_cases proper : isFileName path.dropExtension.lastPart.1 = true
    · right
      have put : extension.isEmpty = false := by simpa using inhabited
      have ends : (path.dropExtension.setExtension extension).text.toList =
          (path.dropExtension.lastPart.2.reverse ++ (splitName path.dropExtension.lastPart.1).1) ++
            '.' :: extension.toList := by
        simp [setExtension, proper, put]
      rw [lastPart_eq ends (by simp [plain]) (by simp) (by simpa using inhabited)]
      exact List.suffix_append _ _
    · left
      have kept : path.dropExtension.setExtension extension = path.dropExtension := by
        simp [setExtension, proper]
      rw [kept]
      unfold extension?
      rw [if_neg proper]

/-- **One extension is not taken for another.** A name that ends in a point and an extension has no
other extension, unless the one ends in a point and the other. -/
theorem extension_apart {name : List Char} {extension other : List Char}
    (ends : '.' :: extension <:+ name) (differ : other ≠ extension)
    (apart : ¬ '.' :: other <:+ extension) : (splitName name).2 ≠ some other := by
  intro split
  obtain ⟨otherEnds, plain⟩ := splitName_ends split
  rcases List.suffix_or_suffix_of_suffix otherEnds ends with shorter | longer
  · rcases List.suffix_cons_iff.mp shorter with same | inside
    · exact differ (List.cons.inj same).2
    · exact apart inside
  · rcases List.suffix_cons_iff.mp longer with same | inside
    · exact differ (List.cons.inj same).2.symm
    · exact plain (inside.mem List.mem_cons_self)

end ElmCodec.Path

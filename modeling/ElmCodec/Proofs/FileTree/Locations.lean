/-
**What paths lead to in a file tree.**

* `FileTree.entry?_insert`, `FileTree.entry?_erase` — what is there after a change.
* `FileTree.insert_insert`, `FileTree.insert_comm`, `FileTree.erase_insert` — when two changes come
  to the same tree.
* `FileTree.walk_concat_eq_ok_iff` — the last step of a walk.
* `FileTree.KeepsDirectories` — one tree has the directories of another. Paths then lead where they
  led before (`FileTree.KeepsDirectories.locate`).
* `FileTree.Names` — a path leads to a name in a directory, and ends in that name.
* `FileTree.Names.extension?_eq_some_iff` — **the extension of a path** is that of the name that it
  leads to.
* `FileTree.Names.join`, `FileTree.Names.of_destination`, `FileTree.Names.of_contentOf` — the paths
  of temporary files, of files to be written and of files that are read lead to names.
* `FileTree.entry?_freshName` — nothing has the name of a temporary file.
-/

import ElmCodec.FileTree.Disk
import ElmCodec.Proofs.OrderedMap
import ElmCodec.Proofs.Outcome
import ElmCodec.Proofs.Path.Extensions

namespace ElmCodec.FileTree

variable {tree before after : FileTree}

/-! ### Entries -/

theorem entry?_of_ne_nil {location : Location} (named : location ≠ []) :
    tree.entry? location = tree.entries.get? location := by
  cases location with
  | nil => exact absurd rfl named
  | cons name rest => rfl

theorem get?_insert (location : Location) (entry : Entry) (other : Location) :
    (tree.insert location entry).entries.get? other =
      if other = location then some entry else tree.entries.get? other :=
  OrderedMap.get?_insert _ _ _ _

theorem get?_erase (location other : Location) : (tree.erase location).entries.get? other =
    if other = location then none else tree.entries.get? other :=
  OrderedMap.get?_erase _ _ _

theorem entry?_insert {location : Location} (named : location ≠ []) (entry : Entry)
    (other : Location) : entry? (tree.insert location entry) other =
      if other = location then some entry else tree.entry? other := by
  cases other with
  | nil => rw [if_neg named.symm]; rfl
  | cons name rest => exact OrderedMap.get?_insert _ _ _ _

theorem entry?_erase {location : Location} (named : location ≠ []) (other : Location) :
    entry? (tree.erase location) other =
      if other = location then none else tree.entry? other := by
  cases other with
  | nil => rw [if_neg named.symm]; rfl
  | cons name rest => exact OrderedMap.get?_erase _ _ _

@[simp] theorem refusalsAt_insert (location other : Location) (entry : Entry) :
    (tree.insert location entry).refusalsAt other = tree.refusalsAt other := rfl

/-- The entries decide a tree, beside what is refused and what is drawn. -/
theorem eq_of_get? {first second : FileTree}
    (same : ∀ location, first.entries.get? location = second.entries.get? location)
    (refusals : first.refusals = second.refusals) (draw : first.draw = second.draw) :
    first = second := by
  obtain ⟨entries, _, _⟩ := first
  obtain rfl := refusals
  obtain rfl := draw
  exact congrArg (FileTree.mk · _ _) (OrderedMap.eq_of_get? same)

/-- Of two entries for one location the later counts. -/
theorem insert_insert (location : Location) (old new : Entry) :
    insert (tree.insert location old) location new = tree.insert location new := by
  refine eq_of_get? (fun other => ?_) rfl rfl
  simp only [get?_insert]
  split <;> rfl

/-- Entries for two locations can be put in any order. -/
theorem insert_comm {first second : Location} (differ : first ≠ second) (entry other : Entry) :
    insert (tree.insert first entry) second other =
      insert (tree.insert second other) first entry := by
  refine eq_of_get? (fun location => ?_) rfl rfl
  simp only [get?_insert]
  split
  · next here => rw [if_neg (here ▸ differ.symm)]
  · rfl

/-- A new entry that is taken away again leaves nothing. -/
theorem erase_insert {location : Location} (free : tree.entries.get? location = none)
    (entry : Entry) : erase (tree.insert location entry) location = tree := by
  refine eq_of_get? (fun other => ?_) rfl rfl
  simp only [get?_erase, get?_insert]
  split
  · next here => rw [here, free]
  · rfl

theorem content?_eq_some_iff {location : Location} {content : Content} :
    tree.content? location = some content ↔ tree.entry? location = some (.file content) := by
  unfold content?
  split <;> simp_all

/-- What is at a location depends on what is listed for it. -/
theorem entry?_congr {first second : FileTree} {location : Location}
    (same : first.entries.get? location = second.entries.get? location) :
    first.entry? location = second.entry? location := by
  cases location with
  | nil => rfl
  | cons name rest =>
    rw [entry?_of_ne_nil (List.cons_ne_nil _ _), entry?_of_ne_nil (List.cons_ne_nil _ _), same]

theorem content?_congr {first second : FileTree} {location : Location}
    (same : first.entries.get? location = second.entries.get? location) :
    first.content? location = second.content? location := by
  unfold content?
  rw [entry?_congr same]

theorem content?_insert_file {location : Location} (named : location ≠ []) (content : Content)
    (other : Location) : (tree.insert location (.file content)).content? other =
      if other = location then some content else tree.content? other := by
  unfold content?
  rw [entry?_insert named]
  by_cases here : other = location
  · rw [if_pos here, if_pos here]
  · rw [if_neg here, if_neg here]

/-- A new directory is no file. -/
theorem content?_insert_directory {location : Location} (named : location ≠ [])
    (missing : tree.entry? location = none) (other : Location) :
    (tree.insert location .directory).content? other = tree.content? other := by
  unfold content?
  rw [entry?_insert named]
  by_cases here : other = location
  · rw [if_pos here, here, missing]
  · rw [if_neg here]

/-! ### Walks -/

/-- **The last step of a walk** starts in a directory. -/
theorem walk_concat_eq_ok_iff {here goal : Location} {parts : List String} {part : String} :
    tree.walk here (parts ++ [part]) = .ok goal ↔ ∃ above, tree.walk here parts = .ok above ∧
      tree.entry? above = some .directory ∧ step above part = some goal := by
  induction parts generalizing here with
  | nil =>
    simp only [List.nil_append, walk, Except.ok.injEq, exists_eq_left']
    split <;> simp_all
  | cons first rest ih =>
    simp only [List.cons_append, walk]
    split <;> simp_all

theorem isIdle_eq_false_iff {part : String} :
    isIdle part = false ↔ part.toList ≠ [] ∧ part.toList ≠ ['.'] := by
  rw [isIdle, Bool.or_eq_false_iff, beq_eq_false_iff_ne, beq_eq_false_iff_ne, ne_eq, ne_eq,
    ← String.toList_inj, ← String.toList_inj]
  rfl

/-- Names of files are the parts that lead to an entry of a directory. -/
theorem isFileName_iff {part : String} :
    Path.isFileName part.toList = true ↔ isIdle part = false ∧ part ≠ ".." := by
  rw [isIdle_eq_false_iff, ne_eq part, ← String.toList_inj, Path.isFileName, Bool.and_eq_true,
    Bool.and_eq_true, bne_iff_ne, bne_iff_ne, Bool.not_eq_true', List.isEmpty_eq_false_iff]
  rfl

theorem step_of_isFileName {name : String} (proper : Path.isFileName name.toList = true)
    (here : Location) : step here name = some (here ++ [name]) := by
  obtain ⟨counts, differs⟩ := isFileName_iff.mp proper
  rw [step, if_neg (by simp [counts]), if_neg (by simpa using differs)]

/-- The last of the parts of a path is its last part, if it leads somewhere. -/
theorem lastPart_of_partsOf {path : Path} {parts : List String} {last : String}
    (whole : partsOf path = parts ++ [last]) (counts : isIdle last = false) :
    path.lastPart.1 = last.toList := by
  have chars : path.parts = parts.map String.toList ++ [last.toList] := by
    have back : path.parts = (partsOf path).map String.toList := by simp [partsOf]
    rw [back, whole, List.map_append]
    rfl
  obtain ⟨inhabited, differs⟩ := isIdle_eq_false_iff.mp counts
  exact Path.lastPart_of_parts chars inhabited differs

/-- Where no slash is at its end, a path ends in the last of its parts. -/
theorem parts_of_endOf {path : Path} {name : String} (slash : (endOf path).2 = false)
    (last : (endOf path).1.getLast? = some name) :
    partsOf path = (endOf path).1.dropLast ++ [name] ∧ name ≠ "" := by
  have kept : (endOf path).1 = partsOf path := by
    have long : (partsOf path).reverse.length ≤
        ((partsOf path).reverse.dropWhile (· == "")).length := by
      simpa [endOf] using slash
    have whole := (List.dropWhile_suffix (· == "")).eq_of_length_le long
    rw [endOf, whole, List.reverse_reverse]
  constructor
  · rw [← kept]
    obtain ⟨parts, whole⟩ := List.getLast?_eq_some_iff.mp last
    rw [whole, List.dropLast_concat]
  · rintro rfl
    have stops := List.head?_dropWhile_not (· == "") (partsOf path).reverse
    rw [endOf, List.getLast?_reverse] at last
    rw [last] at stops
    cases stops

theorem locate_eq_ok_iff {path : Path} {location : Location} :
    tree.locate path = .ok location ↔
      isOutside path = false ∧ tree.walk [] (partsOf path) = .ok location := by
  unfold locate
  cases isOutside path <;> simp

theorem isOutside_eq_false_iff {path : Path} : isOutside path = false ↔
    path.text.toList ≠ [] ∧ path.text.toList.head? ≠ some '/' := by
  simp [isOutside]

theorem look_eq_ok_iff {path : Path} {entry : Entry} :
    tree.look path = .ok entry ↔
      ∃ location, tree.locate path = .ok location ∧ tree.entry? location = some entry := by
  unfold look
  rw [bind_eq_ok_iff]
  refine exists_congr fun location => and_congr_right fun _ => ?_
  split <;> simp_all [pure, Except.pure]

theorem contentOf_eq_ok_iff {path : Path} {content : Content} :
    tree.contentOf path = .ok content ↔
      ∃ location, tree.locate path = .ok location ∧ tree.content? location = some content := by
  unfold contentOf
  simp only [bind_eq_ok_iff, look_eq_ok_iff, content?_eq_some_iff]
  constructor
  · rintro ⟨entry, ⟨location, located, found⟩, given⟩
    cases entry with
    | directory => cases given
    | file other =>
      obtain rfl := Except.ok.inj given
      exact ⟨location, located, found⟩
  · rintro ⟨location, located, found⟩
    exact ⟨.file content, ⟨location, located, found⟩, rfl⟩

theorem readText_eq {path : Path} {content : Content} (given : tree.contentOf path = .ok content) :
    tree.readText path = content.read := by
  rw [readText, given]
  rfl

theorem readText_eq_ok_iff {path : Path} {text : String} :
    tree.readText path = .ok text ↔ tree.contentOf path = .ok (.text text) := by
  unfold readText
  rw [bind_eq_ok_iff]
  constructor
  · rintro ⟨content, given, read⟩
    cases content with
    | text letters =>
      obtain rfl := Except.ok.inj read
      exact given
    | sealed bytes error => cases read
  · exact fun given => ⟨_, given, rfl⟩

/-! ### Trees with the same directories and more -/

/-- One tree has the directories of another. -/
def KeepsDirectories (before after : FileTree) : Prop :=
  ∀ location, before.entry? location = some .directory → after.entry? location = some .directory

namespace KeepsDirectories

theorem refl (tree : FileTree) : tree.KeepsDirectories tree := fun _ => id

theorem trans {middle : FileTree} (first : before.KeepsDirectories middle)
    (second : middle.KeepsDirectories after) : before.KeepsDirectories after :=
  fun location found => second location (first location found)

theorem walk (keeps : before.KeepsDirectories after) {here goal : Location} {parts : List String}
    (found : before.walk here parts = .ok goal) : after.walk here parts = .ok goal := by
  induction parts using List.reverseRecOn generalizing goal with
  | nil => exact found
  | append_singleton parts part ih =>
    obtain ⟨above, reached, directory, stepped⟩ := walk_concat_eq_ok_iff.mp found
    exact walk_concat_eq_ok_iff.mpr ⟨above, ih reached, keeps above directory, stepped⟩

/-- Paths lead where they led before. -/
theorem locate (keeps : before.KeepsDirectories after) {path : Path} {location : Location}
    (found : before.locate path = .ok location) : after.locate path = .ok location := by
  rw [locate_eq_ok_iff] at found ⊢
  exact ⟨found.1, keeps.walk found.2⟩

/-- A file is put where there is no directory. -/
theorem insert_file {location : Location} (named : location ≠ [])
    (free : tree.entry? location ≠ some .directory) (content : Content) :
    tree.KeepsDirectories (tree.insert location (.file content)) := by
  intro other found
  rw [entry?_insert named, if_neg, found]
  rintro rfl
  exact free found

theorem insert_directory {location : Location} (named : location ≠ []) :
    tree.KeepsDirectories (tree.insert location .directory) := by
  intro other found
  rw [entry?_insert named, found, ite_self]

/-- A file is taken away. -/
theorem erase {location : Location} (named : location ≠ [])
    (free : tree.entry? location ≠ some .directory) :
    tree.KeepsDirectories (tree.erase location) := by
  intro other found
  rw [entry?_erase named, if_neg, found]
  rintro rfl
  exact free found

end KeepsDirectories

/-! ### Names in directories -/

theorem isOutside_join {path : Path} (inside : isOutside path = false) (name : String) :
    isOutside (path.join name) = false := by
  obtain ⟨inhabited, relative⟩ := isOutside_eq_false_iff.mp inside
  obtain ⟨rest, starts⟩ := Path.join_starts path name
  rw [isOutside_eq_false_iff, ← starts, List.head?_append_of_ne_nil _ inhabited]
  exact ⟨by simp [inhabited], relative⟩

/-- The path of something in a directory goes there first. -/
theorem exists_parts_join {path : Path} {directory : Location} {name : String}
    (located : tree.locate path = .ok directory) (plain : '/' ∉ name.toList) :
    ∃ parts, partsOf (path.join name) = parts ++ [name] ∧ tree.walk [] parts = .ok directory := by
  obtain ⟨inside, reached⟩ := locate_eq_ok_iff.mp located
  rcases Path.parts_join (isOutside_eq_false_iff.mp inside).1 plain with
    whole | ⟨parts, short, whole⟩
  · exact ⟨partsOf path, by simp [partsOf, whole], reached⟩
  · -- The empty part behind the slash leads nowhere.
    refine ⟨parts.map String.ofList, by simp [partsOf, whole], ?_⟩
    rw [partsOf, short, List.map_append, List.map_singleton, walk_concat_eq_ok_iff] at reached
    obtain ⟨other, reached, _, stepped⟩ := reached
    cases stepped
    exact reached

/-- **A path leads to a name in a directory** that is there, and the path ends in that name. -/
structure Names (tree : FileTree) (path : Path) (directory : Location) (name : String) : Prop where
  located : tree.locate path = .ok (directory ++ [name])
  above : tree.entry? directory = some .directory
  last : path.lastPart.1 = name.toList
  proper : Path.isFileName name.toList = true

namespace Names

variable {path : Path} {directory : Location} {name : String}

theorem of_parts {parts : List String} (inside : isOutside path = false)
    (whole : partsOf path = parts ++ [name]) (reached : tree.walk [] parts = .ok directory)
    (above : tree.entry? directory = some .directory)
    (proper : Path.isFileName name.toList = true) : Names tree path directory name := by
  refine ⟨locate_eq_ok_iff.mpr ⟨inside, ?_⟩, above,
    lastPart_of_partsOf whole (isFileName_iff.mp proper).1, proper⟩
  rw [whole]
  exact walk_concat_eq_ok_iff.mpr ⟨directory, reached, above, step_of_isFileName proper directory⟩

theorem mono (names : Names before path directory name) (keeps : before.KeepsDirectories after) :
    Names after path directory name :=
  ⟨keeps.locate names.located, keeps directory names.above, names.last, names.proper⟩

/-- The extension of a path is that of the name that it leads to. -/
theorem extension?_eq_some_iff (names : Names tree path directory name) {extension : String} :
    path.extension? = some extension ↔ (Path.splitName name.toList).2 = some extension.toList := by
  rw [Path.extension_eq_some_iff, names.last, and_iff_right names.proper]

/-- A path of something in a directory leads there. -/
theorem join (inside : isOutside path = false) (located : tree.locate path = .ok directory)
    (above : tree.entry? directory = some .directory)
    (proper : Path.isFileName name.toList = true) (plain : '/' ∉ name.toList) :
    Names tree (path.join name) directory name := by
  obtain ⟨parts, whole, reached⟩ := exists_parts_join located plain
  exact of_parts (isOutside_join inside name) whole reached above proper

/-- A file can be put where a path leads to a name. -/
theorem of_destination {goal : Location} (found : tree.destination path = .ok goal) :
    ∃ directory name, goal = directory ++ [name] ∧ Names tree path directory name := by
  unfold destination at found
  obtain ⟨inside, found⟩ := unless_eq_ok_iff.mp found
  obtain ⟨directory, reached, found⟩ := bind_eq_ok_iff.mp found
  split at found
  · cases found
  · cases found
  · cases found
  · next name above last =>
    obtain ⟨proper, found⟩ := unless_eq_ok_iff.mp found
    obtain ⟨slash, found⟩ := unless_eq_ok_iff.mp found
    obtain ⟨whole, inhabited⟩ := parts_of_endOf (Bool.eq_false_iff.mpr slash) last
    have proper : Path.isFileName name.toList = true := by
      rw [isFileName_iff, isIdle]
      simpa [inhabited] using proper
    exact ⟨directory, name, (Except.ok.inj found).symm,
      of_parts (by simpa using inside) whole reached above proper⟩

/-- A file that a path leads to has the name at the end of the path. -/
theorem of_contentOf {content : Content} (given : tree.contentOf path = .ok content)
    (proper : Path.isFileName path.lastPart.1 = true) :
    ∃ directory name, Names tree path directory name ∧
      tree.content? (directory ++ [name]) = some content := by
  obtain ⟨location, located, found⟩ := contentOf_eq_ok_iff.mp given
  obtain ⟨inside, reached⟩ := locate_eq_ok_iff.mp located
  obtain ⟨parts, name, whole⟩ : ∃ parts name, partsOf path = parts ++ [name] := by
    rcases List.eq_nil_or_concat' (partsOf path) with none | some
    · exact absurd (List.map_eq_nil_iff.mp none) (List.splitOn_ne_nil _ _)
    · exact some
  rw [whole, walk_concat_eq_ok_iff] at reached
  obtain ⟨above, reached, directory, stepped⟩ := reached
  cases idle : isIdle name with
  | true =>
    -- The path would lead to a directory.
    rw [step, idle] at stepped
    cases stepped
    rw [content?_eq_some_iff, directory] at found
    cases found
  | false =>
    rw [lastPart_of_partsOf whole idle] at proper
    obtain rfl : above ++ [name] = location := by
      rw [step_of_isFileName proper above] at stepped
      exact Option.some.inj stepped
    exact ⟨above, name, of_parts inside whole reached directory proper, found⟩

end Names

/-! ### Temporary files -/

/-- Nothing has the name of a temporary file. -/
theorem entry?_freshName (tree : FileTree) (location : Location) :
    tree.entry? (location ++ [tree.freshName]) = none := by
  rw [entry?_of_ne_nil (by simp), Option.eq_none_iff_forall_ne_some]
  intro entry found
  have key : location ++ [tree.freshName] ∈ tree.entries.keys :=
    OrderedMap.mem_keys_iff.mpr ⟨entry, found⟩
  have bound : tree.freshName.length ≤ (tree.entries.keys.flatMap fun location =>
      location.map String.length).foldl max 0 := by
    rw [List.foldl_max, Nat.zero_max]
    refine List.le_max?_getD_of_mem (List.mem_flatMap.mpr ⟨_, key, ?_⟩)
    simp
  have long : tree.freshName.length = 4 + ((tree.entries.keys.flatMap fun location =>
      location.map String.length).foldl max 0 + tree.draw) := by
    have short : ".tmp".length = 4 := by decide
    simp [freshName, short]
  omega

theorem freshName_toList (tree : FileTree) :
    ∃ zeros, tree.freshName.toList = '.' :: 't' :: 'm' :: 'p' :: List.replicate zeros '0' :=
  ⟨_, by simp [freshName]; rfl⟩

theorem isFileName_freshName : Path.isFileName tree.freshName.toList = true := by
  obtain ⟨zeros, same⟩ := tree.freshName_toList
  simp [Path.isFileName, same]

/-- The name of a temporary file has no extension. -/
theorem splitName_freshName : (Path.splitName tree.freshName.toList).2 = none := by
  obtain ⟨zeros, same⟩ := tree.freshName_toList
  rcases Path.splitName_cases tree.freshName.toList with
    whole | ⟨front, extension, _, inhabited, plain, whole⟩
  · rw [whole]
  · cases front with
    | nil => exact absurd rfl inhabited
    | cons first others =>
      rw [same, List.cons_append] at whole
      have later : '.' ∈ 't' :: 'm' :: 'p' :: List.replicate zeros '0' := by
        rw [(List.cons.inj whole).2]
        simp
      simp [List.mem_replicate] at later

theorem freshName_plain : '/' ∉ tree.freshName.toList := by
  obtain ⟨zeros, same⟩ := tree.freshName_toList
  simp [same, List.mem_replicate]

end ElmCodec.FileTree

/-
**Commands that do not get in each other's way.**

A command plays a part in what several commands do to a tree when all that it does is to make a
temporary file, to fill it, and to put it in a place of its own or to remove it. It plays its part
whatever the others do if it only looks at what they leave as it is. Commands that play their parts
side by side come to the tree that has the texts of all parts at their places, however their orders
come one after the other. What a command comes to may differ in what nobody chose, such as the name
of its temporary file; a view leaves that out.

* `Holding` — what a command has in the tree at a time, and `Does` — what an order changes there.
* `Steps.Plays` — **a command plays its part**, whatever others do.
* `Matches` — **the tree while commands play their parts**; `Matches.does` — what one order
  preserves.
* `Crew.eq_of_finished` — **what a run comes to**, however the orders follow each other.
-/

import ElmCodec.Proofs.FileTree.Stages
import ElmCodec.Proofs.FileTree.Steps

namespace ElmCodec

open FileTree

variable {α β : Type}

/-! ### What a command has, and what it does -/

/-- What a command has in the tree. -/
inductive Holding where
  | nothing
  | temporary (location : Location) (text : String)
  | placed

/-- **What an order of a command does to a tree**, and to what the command has there. -/
inductive Does (part : Part α) (tree : FileTree) : Holding → FileTree → Holding → Prop where
  | look {holding : Holding} : Does part tree holding tree holding
  | make {directory : Location} {name : String}
      (free : tree.entry? (directory ++ [name]) = none)
      (plain : (Path.splitName name.toList).2 = none) :
      Does part tree .nothing (tree.insert (directory ++ [name]) (.file ""))
        (.temporary (directory ++ [name]) "")
  | fill {location : Location} {old : String} (text : String) :
      Does part tree (.temporary location old) (tree.insert location (.file text))
        (.temporary location text)
  | place {location : Location} {text : String} (there : part.text? = some text) :
      Does part tree (.temporary location text)
        ((tree.erase location).insert part.goal (.file text)) .placed
  | drop {location : Location} {text : String} :
      Does part tree (.temporary location text) (tree.erase location) .nothing

/-- What a command relies on: its schema and its directories are as before, and so is what it
has. -/
structure Relies (extension : String) (initial tree : FileTree) (holding : Holding) : Prop where
  ofStage : StageOf extension initial tree
  there : ∀ location text, holding = .temporary location text →
    tree.entry? location = some (.file text)

/-- **A command plays its part**, whatever others do, as long as it finds what it relies on. The
part says what a view shows of the value that the command comes to. -/
def Steps.Plays (extension : String) (initial : FileTree) (view : α → β) (part : Part β) :
    Steps α → Holding → Prop
  | done value, holding =>
    view value = part.value ∧ holding = if part.text?.isSome then .placed else .nothing
  | step change next, holding => ∀ tree, Relies extension initial tree holding →
    ∃ other, Does part tree holding (change tree) other ∧
      Plays extension initial view part (next tree) other

/-- What is played from a stage on is what is played from the start. -/
theorem Steps.Plays.at_stage {extension : String} {initial stage : FileTree} {view : α → β}
    {part : Part β} {steps : Steps α} {holding : Holding}
    (plays : steps.Plays extension initial view part holding)
    (ofStage : StageOf extension initial stage) :
    steps.Plays extension stage view part holding := by
  induction steps generalizing holding with
  | done value => exact plays
  | step change next ih =>
    intro tree relies
    obtain ⟨other, did, later⟩ := plays tree ⟨ofStage.trans relies.ofStage, relies.there⟩
    exact ⟨other, did, ih tree later⟩

/-- A part with another value. -/
def Part.answer (part : Part α) (value : β) : Part β := ⟨part.goal, part.text?, value⟩

theorem Does.answer {part : Part α} {tree after : FileTree} {holding new : Holding}
    (did : Does part tree holding after new) (value : β) :
    Does (part.answer value) tree holding after new := by
  cases did with
  | look => exact .look
  | make free plain => exact .make free plain
  | fill text => exact .fill text
  | place there => exact .place there
  | drop => exact .drop

/-- An order changes entries only. -/
theorem Does.setting {part : Part α} {tree after : FileTree} {holding new : Holding}
    (did : Does part tree holding after new) :
    after.refusals = tree.refusals ∧ after.draw = tree.draw := by
  cases did <;> exact ⟨rfl, rfl⟩

/-- A command that plays its part and gives another value at its end. -/
theorem Steps.Plays.answer {γ δ : Type} {extension : String} {initial : FileTree} {view : α → β}
    {part : Part β} {steps : Steps α} {holding : Holding}
    (plays : steps.Plays extension initial view part holding) {next : α → Steps γ} {view' : γ → δ}
    {value : δ} (ends : ∀ result, view result = part.value →
      ∃ final, next result = .done final ∧ view' final = value) :
    (steps >>= next).Plays extension initial view' (part.answer value) holding := by
  induction steps generalizing holding with
  | done result =>
    obtain ⟨seen, has⟩ := plays
    obtain ⟨final, ended, seen'⟩ := ends result seen
    show (next result).Plays _ _ _ _ _
    rw [ended]
    exact ⟨seen', has⟩
  | step change after ih =>
    intro tree relies
    obtain ⟨other, did, later⟩ := plays tree relies
    exact ⟨other, did.answer value, ih tree later⟩

/-! ### The tree in between -/

section Together

variable {extension : String} {initial tree after : FileTree} {parts : Path → Part α}
variable {files : List Path} {holding : Path → Holding}

/-- **Parts have different places**, under names with another extension, where no directory is. -/
structure Separate (extension : String) (initial : FileTree) (parts : Path → Part α)
    (files : List Path) : Prop where
  distinct : ∀ file ∈ files, ∀ other ∈ files, file ≠ other → (parts file).goal ≠ (parts other).goal
  free : ∀ file ∈ files, (parts file).text? ≠ none →
    initial.entry? (parts file).goal ≠ some .directory
  suffixed : ∀ file ∈ files, ∃ directory name suffix, (parts file).goal = directory ++ [name] ∧
    (Path.splitName name.toList).2 = some suffix ∧ suffix ≠ extension.toList

/-- Where that is what a command has in the tree. -/
def Holding.location? (part : Part α) : Holding → Option Location
  | nothing => none
  | temporary location _ => some location
  | placed => some part.goal

/-- What a command has is in the tree. A temporary file is where nothing was before, and its name
has no extension. -/
def Holding.Holds (part : Part α) (initial tree : FileTree) : Holding → Prop
  | nothing => True
  | temporary location text => tree.entries.get? location = some (.file text) ∧
      initial.entries.get? location = none ∧
      ∃ directory name, location = directory ++ [name] ∧ (Path.splitName name.toList).2 = none
  | placed => ∃ text, part.text? = some text ∧ tree.entries.get? part.goal = some (.file text)

theorem Holding.Holds.congr {part : Part α} {has : Holding} (holds : has.Holds part initial tree)
    (same : ∀ location, has.location? part = some location →
      after.entries.get? location = tree.entries.get? location) :
    has.Holds part initial after := by
  cases has with
  | nothing => exact holds
  | temporary location text => exact ⟨(same location rfl).trans holds.1, holds.2⟩
  | placed =>
    obtain ⟨text, there, found⟩ := holds
    exact ⟨text, there, (same part.goal rfl).trans found⟩

/-- **The tree while commands play their parts**: it has what each of them has, at different places,
and all else is as before. -/
structure Matches (initial : FileTree) (parts : Path → Part α) (files : List Path)
    (holding : Path → Holding) (tree : FileTree) : Prop where
  holds : ∀ file ∈ files, (holding file).Holds (parts file) initial tree
  apart : ∀ file ∈ files, ∀ other ∈ files, file ≠ other → ∀ location,
    (holding file).location? (parts file) = some location →
      (holding other).location? (parts other) ≠ some location
  rest : ∀ location, (∀ file ∈ files, (holding file).location? (parts file) ≠ some location) →
    tree.entries.get? location = initial.entries.get? location
  setting : tree.refusals = initial.refusals ∧ tree.draw = initial.draw

namespace Matches

/-- At first nothing has been done. -/
theorem start : Matches initial parts files (fun _ => .nothing) initial :=
  ⟨fun _ _ => trivial, nofun, fun _ _ => rfl, rfl, rfl⟩

/-- What is at a location belongs to a command or is as before. -/
theorem location_cases (matched : Matches initial parts files holding tree) (location : Location) :
    (∃ file ∈ files, (holding file).location? (parts file) = some location) ∨
      tree.entries.get? location = initial.entries.get? location := by
  by_cases held : ∃ file ∈ files, (holding file).location? (parts file) = some location
  · exact .inl held
  · exact .inr (matched.rest location fun file member here => held ⟨file, member, here⟩)

/-- **When one command changes what is its own**, all that the others have stays. -/
theorem update (matched : Matches initial parts files holding tree) {file : Path}
    (member : file ∈ files) {new : Holding} (holds : new.Holds (parts file) initial after)
    (kept : ∀ location, (holding file).location? (parts file) ≠ some location →
      new.location? (parts file) ≠ some location →
        after.entries.get? location = tree.entries.get? location)
    (left : ∀ location, (holding file).location? (parts file) = some location →
      new.location? (parts file) ≠ some location →
        after.entries.get? location = initial.entries.get? location)
    (free : ∀ location, new.location? (parts file) = some location → ∀ other ∈ files,
      other ≠ file → (holding other).location? (parts other) ≠ some location)
    (setting : after.refusals = tree.refusals ∧ after.draw = tree.draw) :
    Matches initial parts files (Function.update holding file new) after := by
  have here : Function.update holding file new file = new := Function.update_self ..
  have there : ∀ other, other ≠ file → Function.update holding file new other = holding other :=
    fun other differs => Function.update_of_ne differs _ _
  constructor
  · intro other member'
    by_cases same : other = file
    · rw [same, here]
      exact holds
    · rw [there other same]
      refine (matched.holds other member').congr fun location has => kept location ?_ ?_
      · exact matched.apart other member' file member same location has
      · exact fun taken => free location taken other member' same has
  · intro first member' second member'' differ location
    by_cases same : first = file
    · rw [same, here, there second (same ▸ Ne.symm differ)]
      exact fun has => free location has second member'' (same ▸ Ne.symm differ)
    · rw [there first same]
      by_cases same' : second = file
      · rw [same', here]
        exact fun has taken => free location taken first member' same has
      · rw [there second same']
        exact matched.apart first member' second member'' differ location
  · intro location nobody
    have notNew := nobody file member
    rw [here] at notNew
    by_cases old : (holding file).location? (parts file) = some location
    · exact left location old notNew
    · rw [kept location old notNew]
      refine matched.rest location fun other member' => ?_
      by_cases same : other = file
      · rwa [same]
      · have notOther := nobody other member'
        rwa [there other same] at notOther
  · exact ⟨setting.1.trans matched.setting.1, setting.2.trans matched.setting.2⟩

variable (separate : Separate extension initial parts files)
variable (matched : Matches initial parts files holding tree)
include separate matched

/-- What a command has is a file. It is no directory of before, and no schema. -/
theorem held {file : Path} (member : file ∈ files) {location : Location}
    (has : (holding file).location? (parts file) = some location) :
    (∃ text, tree.entries.get? location = some (.file text)) ∧
      initial.entries.get? location ≠ some .directory ∧ ∃ directory name,
        location = directory ++ [name] ∧
          (Path.splitName name.toList).2 ≠ some extension.toList := by
  have holds := matched.holds file member
  generalize holding file = own at has holds
  cases own with
  | nothing => cases has
  | temporary place text =>
    obtain rfl := Option.some.inj has
    obtain ⟨there, before, directory, name, whole, plain⟩ := holds
    exact ⟨⟨text, there⟩, by simp [before], directory, name, whole, by simp [plain]⟩
  | placed =>
    obtain rfl := Option.some.inj has
    obtain ⟨text, given, there⟩ := holds
    have free := separate.free file member (by simp [given])
    obtain ⟨directory, name, suffix, goal, named, differs⟩ := separate.suffixed file member
    rw [entry?_of_ne_nil (by simp [goal])] at free
    exact ⟨⟨text, there⟩, free, directory, name, goal, by simpa [named] using differs⟩

/-- **What the commands rely on** is there. -/
theorem relies {file : Path} (member : file ∈ files) :
    Relies extension initial tree (holding file) := by
  refine ⟨⟨fun location => ?_, fun {directory name} named => ?_, matched.setting.1⟩,
    fun location text has => ?_⟩
  · rcases matched.location_cases location with ⟨other, member', here⟩ | same
    · obtain ⟨⟨text, there⟩, before, directory, name, rfl, _⟩ := matched.held separate member' here
      rw [entry?_of_ne_nil (by simp), entry?_of_ne_nil (by simp), there]
      exact iff_of_false nofun before
    · rw [entry?_congr same]
  · rcases matched.location_cases (directory ++ [name]) with ⟨other, member', here⟩ | same
    · obtain ⟨_, _, _, name', whole, differs⟩ := matched.held separate member' here
      obtain ⟨_, sameName⟩ := List.append_inj' whole rfl
      rw [(List.cons.inj sameName).1] at named
      exact absurd named differs
    · exact content?_congr same
  · have holds := matched.holds file member
    rw [has] at holds
    obtain ⟨there, _, directory, name, rfl, _⟩ := holds
    rwa [entry?_of_ne_nil (by simp)]

/-- A command can take a location where nothing is. -/
theorem free_of_get? {location : Location} (free : tree.entries.get? location = none) {file : Path}
    (member : file ∈ files) : (holding file).location? (parts file) ≠ some location := by
  intro here
  obtain ⟨⟨text, there⟩, _⟩ := matched.held separate member here
  rw [there] at free
  cases free

/-- A command can take its place. -/
theorem free_goal {file other : Path} (member : file ∈ files) (member' : other ∈ files)
    (differs : other ≠ file) :
    (holding other).location? (parts other) ≠ some (parts file).goal := by
  have holds := matched.holds other member'
  generalize holding other = own at holds
  cases own with
  | nothing => nofun
  | temporary location text =>
    obtain ⟨_, _, directory, name, rfl, plain⟩ := holds
    obtain ⟨directory', name', suffix, goal, named, _⟩ := separate.suffixed file member
    intro same
    rw [goal] at same
    obtain ⟨_, sameName⟩ := List.append_inj' (Option.some.inj same) rfl
    rw [← (List.cons.inj sameName).1, plain] at named
    cases named
  | placed =>
    exact fun same => separate.distinct other member' file member differs (Option.some.inj same)

/-- **What one order preserves.** -/
theorem does {file : Path} (member : file ∈ files) {new : Holding}
    (did : Does (parts file) tree (holding file) after new) :
    Matches initial parts files (Function.update holding file new) after := by
  have holds := matched.holds file member
  have others := matched.apart file member
  have setting := did.setting
  generalize has : holding file = old at did holds others
  cases did with
  | look =>
    rw [← has, Function.update_eq_self]
    exact matched
  | @make directory name free plain =>
    rw [entry?_of_ne_nil (by simp)] at free
    have nobody := fun other (member' : other ∈ files) => matched.free_of_get? separate free member'
    have before := (matched.rest _ nobody).symm.trans free
    refine matched.update member
      ⟨(get?_insert ..).trans (if_pos rfl), before, directory, name, rfl, plain⟩ ?_ ?_ ?_
      setting
    · exact fun location _ differs =>
        (get?_insert ..).trans (if_neg (differs <| congrArg some ·.symm))
    · simp [has, Holding.location?]
    · rintro _ ⟨⟩ other member' _
      exact nobody other member'
  | @fill location old text =>
    obtain ⟨_, before, named⟩ := holds
    refine matched.update member ⟨(get?_insert ..).trans (if_pos rfl), before, named⟩ ?_ ?_ ?_
      setting
    · exact fun other _ differs => (get?_insert ..).trans (if_neg (differs <| congrArg some ·.symm))
    · rw [has]
      exact fun other same differs => absurd same differs
    · exact fun other same path member' differs => others path member' differs.symm other same
  | @place location text there =>
    obtain ⟨_, before, _⟩ := holds
    have gone : (parts file).goal ≠ location →
        ((tree.erase location).insert (parts file).goal (.file text)).entries.get? location =
          none :=
      fun differs => ((get?_insert ..).trans (if_neg differs.symm)).trans
        ((get?_erase ..).trans (if_pos rfl))
    refine matched.update member ⟨text, there, (get?_insert ..).trans (if_pos rfl)⟩ ?_ ?_ ?_
      setting
    · rw [has]
      intro other differs differs'
      rw [get?_insert, if_neg (differs' <| congrArg some ·.symm), get?_erase,
        if_neg (differs <| congrArg some ·.symm)]
    · rw [has]
      rintro _ ⟨⟩ differs
      rw [gone (differs <| congrArg some ·), before]
    · rintro _ ⟨⟩ other member' differs
      exact matched.free_goal separate member member' differs
  | @drop location text =>
    obtain ⟨_, before, _⟩ := holds
    refine matched.update member trivial ?_ ?_ ?_ setting
    · rw [has]
      exact fun other differs _ => (get?_erase ..).trans (if_neg (differs <| congrArg some ·.symm))
    · rw [has]
      rintro _ ⟨⟩ _
      rw [get?_erase, if_pos rfl, before]
    · rintro _ ⟨⟩

end Matches

end Together

/-! ### Runs side by side -/

namespace Crew

variable {extension : String} {initial : FileTree} {view : α → β} {parts : Path → Part β}
variable {files : List Path}
variable {crew other : Crew α}

/-- **Commands play their parts side by side**, and the tree is as it has to be in between. -/
def Together (extension : String) (initial : FileTree) (view : α → β) (parts : Path → Part β)
    (files : List Path) (crew : Crew α) : Prop :=
  ∃ holding : Path → Holding,
    (∀ file ∈ files,
      (crew.steps file).Plays extension initial view (parts file) (holding file)) ∧
      Matches initial parts files holding crew.tree

variable (separate : Separate extension initial parts files)
include separate

/-- One order preserves that. -/
theorem Together.moves (together : Together extension initial view parts files crew)
    (moved : Moves files crew other) : Together extension initial view parts files other := by
  obtain ⟨holding, plays, matched⟩ := together
  cases moved with
  | @move file change next member ready =>
    have playing := plays file member
    rw [ready] at playing
    obtain ⟨new, did, later⟩ := playing crew.tree (matched.relies separate member)
    refine ⟨Function.update holding file new, fun path member' => ?_,
      matched.does separate member did⟩
    by_cases same : path = file
    · subst same
      simpa using later
    · simpa [Function.update_of_ne same] using plays path member'

/-- A whole run preserves that. -/
theorem Together.reaches (together : Together extension initial view parts files crew)
    (reached : Reaches files crew other) : Together extension initial view parts files other := by
  induction reached with
  | refl => exact together
  | tail _ moved ih => exact ih.moves separate moved

/-- **What a run comes to**, however the orders of the commands follow each other: what is seen of
the value of every command is what its part says, and the texts of all parts have been put at their
places. -/
theorem eq_of_finished (together : Together extension initial view parts files crew)
    (finished : crew.Finished files) :
    (∀ file ∈ files, ∃ value, crew.steps file = .done value ∧ view value = (parts file).value) ∧
      crew.tree = initial.putAll parts files := by
  obtain ⟨holding, plays, matched⟩ := together
  have ended : ∀ file ∈ files,
      (∃ value, crew.steps file = .done value ∧ view value = (parts file).value) ∧
        holding file = if (parts file).text?.isSome then .placed else .nothing := by
    intro file member
    obtain ⟨value, done⟩ := finished file member
    have playing := plays file member
    rw [done] at playing
    exact ⟨⟨value, done, playing.1⟩, playing.2⟩
  have same := setting_putAll parts files initial
  refine ⟨fun file member => (ended file member).1, eq_of_get? (fun location => ?_)
    (matched.setting.1.trans same.1.symm) (matched.setting.2.trans same.2.symm)⟩
  by_cases placed : ∃ file ∈ files, (parts file).text? ≠ none ∧ (parts file).goal = location
  · obtain ⟨file, member, some, rfl⟩ := placed
    have has : holding file = .placed := by
      rw [(ended file member).2, if_pos (Option.isSome_iff_ne_none.mpr some)]
    have holds := matched.holds file member
    rw [has] at holds
    obtain ⟨text, there, found⟩ := holds
    rw [found]
    exact (get?_putAll separate.distinct member there).symm
  · have absent : ∀ file ∈ files, (parts file).goal = location → (parts file).text? = none :=
      fun file member here => by_contra fun some => placed ⟨file, member, some, here⟩
    rw [get?_putAll_of_absent absent]
    refine matched.rest location fun file member => ?_
    rw [(ended file member).2]
    cases some : (parts file).text? with
    | none => nofun
    | some text =>
      intro here
      rw [absent file member (Option.some.inj here)] at some
      cases some

end Crew

end ElmCodec

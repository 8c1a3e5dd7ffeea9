/-
Module: Narrative.Proofs.Engine.Legible
Purpose: What the player reads of a menu. If it can be said of every entry whether it may be told, and no
  name holds an opening bracket, the text of a menu expands to a line for each key, with nothing but the
  key and the title that stands there; and the keys and titles can be read off it in just one way.
Main exports: optionScreen, itemScreen, ReadAs, eq_of_itemScreen, Engine.OptionsClear, Engine.ItemsClear,
  Engine.reads_options, Engine.reads_items, Engine.menus_legible
-/
import Narrative.Proofs.Engine.Lines
import Narrative.Proofs.Engine.Screens
import Narrative.Proofs.Markup.Escape

namespace Narrative

open Markup

/-! ### What is read of a menu -/

/-- The kind of the option under a key. -/
def keyKind (key : Char) : OptionKind :=
  if key = 'x' then .way else if key ∈ "abcdefgh".toList then .inside else .interaction

/-- The lines of the options: interactions, locations inside, and the way back, with an empty line
between those that there are. -/
def optionScreen (titles : List (Char × String)) : List String :=
  spacedLines (fun entry => keyKind entry.1) entryLine titles

/-- The lines of the items, and the way back. -/
def itemScreen (titles : List (Char × String)) (way : String) : List String :=
  ["INVENTORY", ""] ++
    (if titles.isEmpty then ["You carry nothing."] else titles.map entryLine) ++
    [entryLine ('x', way)]

/-- Whatever was shown before, the text expands to the lines, at instant speed. -/
def ReadAs (text : String) (lines : List String) : Prop :=
  ∀ state, expand text.toList state = .ok ((joinLines lines).toList, state.atSpeed .instant)

/-! ### Lines as they are written -/

/-- The line of a menu is the one that is read, with its bracket doubled. -/
theorem toList_menuLine {entry : Char × String} (legible : IsLegible entry) :
    (menuLine (shownKey entry.1).toString entry.2).toList = doubled (entryLine entry).toList := by
  have shown := shownKey_ne_opening legible.1
  have plain : '[' ∉ shownKey entry.1 :: ']' :: ' ' :: entry.2.toList := by
    simp [shown.symm, legible.2]
  rw [toList_entryLine, doubled_opening, doubled_of_not_mem plain]
  simp [menuLine, String.toList_append]

/-- The way back is shown with its key in upper case. -/
theorem wayLine_eq (title : String) : "[[X] " ++ title = menuLine (shownKey 'x').toString title := by
  have shown : "[[" ++ (shownKey 'x').toString ++ "] " = "[[X] " := by decide +kernel
  rw [menuLine, shown]

/-- Lines with their brackets doubled make a text with its brackets doubled. -/
theorem toList_joinLines_doubled {written read : List String}
    (alike : written.map String.toList = read.map (doubled ·.toList)) :
    (joinLines written).toList = doubled (joinLines read).toList := by
  rw [toList_joinLines, toList_joinLines, doubled_intercalate (by decide), alike, List.map_map]
  rfl

/-- Lines without a bracket are written as they are read. -/
theorem doubled_of_plain {lines : List String} (plain : ∀ line ∈ lines, '[' ∉ line.toList) :
    lines.map String.toList = lines.map (doubled ·.toList) :=
  List.map_congr_left fun line member => (doubled_of_not_mem (plain line member)).symm

/-- The directive in front of the first line stands in front of the text. -/
theorem joinLines_instant (line : String) {lines : List String} (more : lines ≠ []) :
    joinLines (("[i]" ++ line) :: lines) = "[i]" ++ joinLines (line :: lines) := by
  rw [joinLines_cons more, joinLines_cons more, String.append_assoc, String.append_assoc,
    String.append_assoc]

/-- If the line of each entry is doubled, so are the lines with their gaps. -/
theorem spacedLines_doubled {α κ : Type} [DecidableEq κ] {kind : α → κ} {line shown : α → String}
    {entries : List α} (alike : ∀ entry ∈ entries, (line entry).toList = doubled (shown entry).toList) :
    (spacedLines kind line entries).map String.toList =
      (spacedLines kind shown entries).map (doubled ·.toList) := by
  induction entries with
  | nil => rfl
  | cons entry rest ih =>
      obtain ⟨one, alike⟩ := List.forall_mem_cons.1 alike
      cases rest with
      | nil => rw [spacedLines, spacedLines, List.map_singleton, List.map_singleton, one]
      | cons next rest =>
          rw [spacedLines, spacedLines, List.map_append, List.map_append, List.map_cons, List.map_cons,
            one, ih alike]
          split <;> rfl

/-- A text that begins with the directive for instant speed and then has its brackets doubled. -/
theorem reads_of_doubled {written read : List String}
    (alike : written.map String.toList = read.map (doubled ·.toList))
    (ends : (joinLines read).toList.head? ≠ some '\x7b') : ReadAs ("[i]" ++ joinLines written) read := by
  intro state
  rw [String.toList_append, toList_joinLines_doubled alike]
  exact expand_instant_doubled ends state

/-- The lines of the items can be read in one way only. -/
theorem eq_of_itemScreen {first second : List (Char × String)} {way other : String}
    (legible : ∀ entry ∈ first, IsLegible entry) (alsoLegible : ∀ entry ∈ second, IsLegible entry)
    (plain : '[' ∉ way.toList) (alsoPlain : '[' ∉ other.toList)
    (same : joinLines (itemScreen first way) = joinLines (itemScreen second other)) :
    first = second ∧ way = other := by
  have isKey : 'x' ∈ menuKeys := by decide
  have whole : ∀ {titles : List (Char × String)} {way : String}, (∀ entry ∈ titles, IsLegible entry) →
      '[' ∉ way.toList → ∀ entry ∈ titles ++ [('x', way)], IsLegible entry := by
    intro titles way legible plain
    rw [List.forall_mem_append, List.forall_mem_singleton]
    exact ⟨legible, isKey, plain⟩
  have opening : ∀ (entry : Char × String) (lines more : List String),
      joinLines (entryLine entry :: lines) ≠ joinLines ("You carry nothing." :: more) := by
    intro entry lines more same
    have heads := congrArg (·.toList.head?) same
    rw [head?_joinLines (by simp [entryLine]), head?_joinLines (by decide), toList_entryLine] at heads
    exact absurd heads (by simp)
  have same := joinLines_cons_inj (by simp) (by simp) (joinLines_cons_inj (by simp) (by simp) same)
  cases first with
  | nil =>
      cases second with
      | nil =>
          have ways := joinLines_cons_inj (by simp) (by simp) same
          have lines := eq_of_lines (whole (List.forall_mem_nil _) plain)
            (whole (List.forall_mem_nil _) alsoPlain) ways
          simpa using lines
      | cons two more => exact absurd same.symm (opening two _ _)
  | cons one rest =>
      cases second with
      | nil => exact absurd same (opening one _ _)
      | cons two more =>
          have lines := eq_of_lines (whole legible plain) (whole alsoLegible alsoPlain)
            (by simpa using same)
          obtain ⟨titles, ways⟩ := List.append_inj' lines rfl
          exact ⟨titles, by simpa using ways⟩

/-! ### Menus that can be read -/

/-- What is tested for the options: the interactions where the story is, and the locations inside. -/
def World.optionPaths (world : World) : List NodePath :=
  (List.range (((world.entity? world.focus).map (·.interactions)).getD []).length).map
      (⟨world.focus, .interaction ·, []⟩) ++
    (world.inside world.focus).map (⟨·, .body, []⟩)

/-- What is tested for the items: those that are held. -/
def World.itemPaths (world : World) : List NodePath :=
  (world.inventory.toList.filterMap world.resolveItem?).map (⟨·, .body, []⟩)

/-- It can be said of each of the nodes whether it may be told. -/
def World.Decides (world : World) (paths : List NodePath) : Prop :=
  ∀ path ∈ paths, (world.isAvailable path).isOk = true

instance (world : World) (paths : List NodePath) : Decidable (world.Decides paths) :=
  inferInstanceAs (Decidable (∀ path ∈ paths, (world.isAvailable path).isOk = true))

/-- If it can be said of each, those that may be told can be listed. -/
theorem World.exists_availableAmong {world : World} {α : Type} {path : α → NodePath}
    {entries : List α} (decides : world.Decides (entries.map path)) :
    ∃ found, world.availableAmong path entries = .ok found := by
  cases asked : world.availableAmong path entries with
  | ok found => exact ⟨found, rfl⟩
  | error error =>
      obtain ⟨entry, member, doubtful⟩ := exists_of_availableAmong_error asked
      have decided := decides _ (List.mem_map_of_mem member)
      rw [doubtful] at decided
      cases decided

namespace Engine

/-- An option with its title. The way back has its words in front of the name. -/
def titled (engine : Engine) (entry : Char × Choice) : Char × String :=
  (entry.1, if entry.1 = 'x' then engine.exitName ++ " " ++ engine.nameOf entry.2
    else engine.nameOf entry.2)

/-- The options with their titles. -/
def optionTitles (engine : Engine) : List (Char × String) := engine.options.map engine.titled

/-- An item with its name. -/
def named (engine : Engine) (entry : Char × Nat) : Char × String :=
  (entry.1, engine.world.nameOf entry.2)

/-- The items with their names. -/
def itemTitles (engine : Engine) : List (Char × String) := engine.items.map engine.named

/-- The title of the way back from the items. -/
def itemsWay (engine : Engine) : String :=
  engine.exitName ++ " " ++ engine.world.nameOf engine.world.focus

/-- The options can be found, and their names have no opening bracket. -/
structure OptionsClear (engine : Engine) : Prop where
  decides : engine.world.Decides engine.world.optionPaths
  exitName : '[' ∉ engine.exitName.toList
  names : ∀ entry ∈ engine.world.offered, '[' ∉ (engine.nameOf entry.2).toList

/-- The items can be found, and their names and that of the location have no opening bracket. -/
structure ItemsClear (engine : Engine) : Prop where
  decides : engine.world.Decides engine.world.itemPaths
  exitName : '[' ∉ engine.exitName.toList
  names : ∀ entry ∈ engine.world.carried, '[' ∉ (engine.world.nameOf entry.2).toList
  focusName : '[' ∉ (engine.world.nameOf engine.world.focus).toList

end Engine

/-! ### Keys and titles -/

/-- Keys that are given out in turn are those that come first. -/
theorem map_fst_zip_sublist {α : Type} (keys : List Char) (entries : List α) :
    ((keys.zip entries).map (·.1)).Sublist keys := by
  rw [List.zip_eq_zip_take_min, List.map_fst_zip (by simp)]
  exact List.take_sublist ..

/-- What stands under a key that is given once. -/
theorem lookup_iff_mem {α : Type} {entries : List (Char × α)} (different : (entries.map (·.1)).Nodup)
    {key : Char} {value : α} : entries.lookup key = some value ↔ (key, value) ∈ entries := by
  refine ⟨Play.mem_of_lookup, fun member => ?_⟩
  induction entries with
  | nil => cases member
  | cons entry rest ih =>
      obtain ⟨fresh, different⟩ := List.nodup_cons.1 different
      rcases List.mem_cons.1 member with rfl | member
      · exact List.lookup_cons_self
      · have other : key ≠ entry.1 := fun same => fresh (List.mem_map.2 ⟨_, member, same⟩)
        rw [List.lookup_cons, beq_false_of_ne other]
        exact ih different member

/-- Words in front of a name leave it legible. -/
theorem not_mem_way {first second : String} (plain : '[' ∉ first.toList)
    (alsoPlain : '[' ∉ second.toList) : '[' ∉ (first ++ " " ++ second).toList := by
  simp [String.toList_append, plain, alsoPlain]

namespace World

variable {world : World}

theorem key_of_mem_offered {entry : Char × Choice} (member : entry ∈ world.offered) :
    entry.1 ∈ menuKeys ∧ optionKind entry = keyKind entry.1 := by
  obtain ⟨key, choice⟩ := entry
  simp only [offered_eq, List.mem_append] at member
  rcases member with (interaction | inside) | way
  · obtain ⟨isNumber, placed⟩ := List.of_mem_zip interaction
    obtain ⟨position, _, rfl⟩ := List.mem_map.1 placed
    have different : (numberKeys ++ letterKeys).Nodup := by decide
    have noLetter : key ∉ letterKeys := fun isLetter =>
      (List.nodup_append.1 different).2.2 key isNumber key isLetter rfl
    have other := ne_exitKey_of_mem (.inl isNumber)
    exact ⟨by simp [menuKeys_eq, isNumber],
      (if_neg other).trans (if_neg noLetter) |>.symm⟩
  · obtain ⟨isLetter, placed⟩ := List.of_mem_zip inside
    obtain ⟨number, _, rfl⟩ := List.mem_map.1 placed
    have other := ne_exitKey_of_mem (.inr isLetter)
    exact ⟨by simp [menuKeys_eq, isLetter],
      (if_neg other).trans ((if_neg other).trans (if_pos isLetter)).symm⟩
  · obtain ⟨parent, _, same⟩ := List.mem_map.1 way
    cases same
    exact ⟨by simp [menuKeys_eq], rfl⟩

theorem key_of_mem_carried {entry : Char × Nat} (member : entry ∈ world.carried) :
    entry.1 ∈ numberKeys :=
  (List.of_mem_zip (carried_eq world ▸ member)).1

/-- No two options have one key. -/
theorem nodup_keys_offered (world : World) : (world.offered.map (·.1)).Nodup := by
  have ways : ((world.wayBack world.focus).map fun parent => (exitKey, Choice.location parent)).map
      (·.1) |>.Sublist [exitKey] := by
    unfold wayBack
    split
    · exact List.nil_sublist _
    · cases world.parent? world.focus with
      | none => exact List.nil_sublist _
      | some parent => exact List.Sublist.refl _
  have given : (world.offered.map (·.1)).Sublist menuKeys := by
    rw [menuKeys_eq, offered_eq, List.map_append, List.map_append]
    exact ((map_fst_zip_sublist ..).append (map_fst_zip_sublist ..)).append ways
  exact (show menuKeys.Nodup by decide).sublist given

theorem nodup_keys_carried (world : World) : (world.carried.map (·.1)).Nodup := by
  rw [carried_eq]
  exact (show numberKeys.Nodup by decide).sublist (map_fst_zip_sublist ..)

end World

/-! ### Screens -/

namespace Engine

variable {engine : Engine}

theorem toList_optionLine {entry : Char × Choice} (legible : IsLegible (engine.titled entry)) :
    (engine.optionLine entry).toList = doubled (entryLine (engine.titled entry)).toList := by
  rw [← toList_menuLine legible]
  unfold optionLine titled
  split
  next way => rw [way, wayLine_eq]
  next other => rw [shownKey_of_ne other, menuLine]

theorem toList_itemLine {entry : Char × Nat} (other : entry.1 ≠ exitKey)
    (legible : IsLegible (engine.named entry)) :
    (engine.itemLine entry).toList = doubled (entryLine (engine.named entry)).toList := by
  rw [← toList_menuLine legible, itemLine, named, shownKey_of_ne other, menuLine]

theorem OptionsClear.isLegible (clear : engine.OptionsClear) :
    ∀ entry ∈ engine.world.offered, IsLegible (engine.titled entry) := by
  intro entry member
  refine ⟨(World.key_of_mem_offered member).1, ?_⟩
  have plain := clear.names entry member
  unfold titled
  dsimp only
  split
  · exact not_mem_way clear.exitName plain
  · exact plain

theorem ItemsClear.isLegible (clear : engine.ItemsClear) :
    ∀ entry ∈ engine.world.carried, IsLegible (engine.named entry) :=
  fun entry member =>
    ⟨menuKeys_eq ▸ List.mem_append_left _ (List.mem_append_left _ (World.key_of_mem_carried member)),
      clear.names entry member⟩

/-- The lines of the options have their gaps where the kind of the keys changes. -/
theorem groupLines_offered (engine : Engine) :
    groupLines ((optionGroups engine.world.offered).map (·.map engine.optionLine)) =
      spacedLines (keyKind ·.1) engine.optionLine engine.world.offered := by
  have whole : (optionGroups engine.world.offered).flatten = engine.world.offered := by
    rw [optionGroups_offered, World.offered_eq]
    simp
  have spaced : groupLines ((optionGroups engine.world.offered).map (·.map engine.optionLine)) =
      spacedLines optionKind engine.optionLine (optionGroups engine.world.offered).flatten := by
    rw [optionGroups, List.map_map, ← List.flatMap_def]
    exact groupLines_filter (by decide) engine.world.offered
  rw [spaced, whole]
  exact spacedLines_congr fun entry member => (World.key_of_mem_offered member).2

/-- The text of the options reads as their lines. -/
theorem reads_options (clear : engine.OptionsClear) :
    ReadAs (engine.menuText (.options engine.world.offered))
      (optionScreen (engine.world.offered.map engine.titled)) := by
  have doubling : ∀ entry ∈ engine.world.offered,
      (engine.optionLine entry).toList = doubled (entryLine (engine.titled entry)).toList :=
    fun entry member => toList_optionLine (clear.isLegible entry member)
  change ReadAs ("[i]" ++ joinLines (groupLines
    ((optionGroups engine.world.offered).map (·.map engine.optionLine)))) _
  rw [groupLines_offered]
  refine reads_of_doubled ?_ ?_
  · rw [optionScreen, spacedLines_map]
    exact spacedLines_doubled doubling
  · intro opens
    exact absurd (opens_spacedLines keyKind _ _ opens) (by decide)

/-- The text of the items reads as their lines. -/
theorem reads_items (clear : engine.ItemsClear) :
    ReadAs (engine.menuText (.items engine.world.carried))
      (itemScreen (engine.world.carried.map engine.named) engine.itemsWay) := by
  have way : ("[[X] " ++ engine.itemsWay).toList = doubled (entryLine ('x', engine.itemsWay)).toList := by
    have legible : IsLegible ('x', engine.itemsWay) :=
      ⟨(by decide : 'x' ∈ menuKeys), not_mem_way clear.exitName clear.focusName⟩
    rw [wayLine_eq, toList_menuLine legible]
  have items : (engine.world.carried.map engine.itemLine).map String.toList =
      ((engine.world.carried.map engine.named).map entryLine).map (doubled ·.toList) := by
    rw [List.map_map, List.map_map, List.map_map]
    refine List.map_congr_left fun entry member => ?_
    rw [Function.comp_apply, Function.comp_apply, Function.comp_apply]
    exact toList_itemLine (ne_exitKey_of_mem (.inl (World.key_of_mem_carried member)))
      (clear.isLegible entry member)
  have doubling : (["INVENTORY", ""] ++
      (if engine.world.carried.isEmpty then ["You carry nothing."]
        else engine.world.carried.map engine.itemLine) ++
      ["[[X] " ++ engine.itemsWay]).map String.toList =
      (itemScreen (engine.world.carried.map engine.named) engine.itemsWay).map (doubled ·.toList) := by
    have header := doubled_of_plain (show ∀ line ∈ ["INVENTORY", ""], '[' ∉ line.toList by decide)
    have nothing := doubled_of_plain (show ∀ line ∈ ["You carry nothing."], '[' ∉ line.toList by decide)
    rw [itemScreen, List.map_append, List.map_append, List.map_append, List.map_append, header,
      List.map_singleton, List.map_singleton, way, List.isEmpty_map]
    split
    · rw [nothing]
    · rw [items]
  have first : "[i]INVENTORY" = "[i]" ++ "INVENTORY" := by decide
  change ReadAs (joinLines (["[i]INVENTORY", ""] ++ _ ++ ["[[X] " ++ engine.itemsWay])) _
  rw [first, List.cons_append, List.cons_append, joinLines_instant _ (by simp)]
  refine reads_of_doubled doubling ?_
  rw [itemScreen, List.cons_append, List.cons_append, head?_joinLines (by decide)]
  decide

/-- The options are shown if they can be found. -/
theorem exists_describeOptions (decides : engine.world.Decides engine.world.optionPaths) :
    ∃ text after, Play.Gives Play.describeOptions engine text after := by
  obtain ⟨decided, alsoDecided⟩ := List.forall_mem_append.1 decides
  obtain ⟨_, interactions⟩ := World.exists_availableAmong decided
  obtain ⟨_, inside⟩ := World.exists_availableAmong alsoDecided
  exact Play.exists_gives_describeOptions interactions inside

theorem exists_describeInventory (decides : engine.world.Decides engine.world.itemPaths) :
    ∃ text after, Play.Gives Play.describeInventory engine text after := by
  obtain ⟨items, held⟩ := World.exists_availableAmong decides
  simp only [Play.describeInventory, Play.gives_modify_bind, Play.gives_ask_bind,
    Play.gives_get_bind, Play.gives_pure]
  exact ⟨_, _, items, held, rfl, rfl⟩

/-- If it can be said of every entry whether it may be told, and no name has an opening bracket, a menu is
shown. What is read then is a line for each entry that a key is looked up in, and no other entries would
be read so. -/
theorem menus_legible :
    (∀ engine : Engine, engine.OptionsClear → ∃ text after,
      Play.Gives Play.describeOptions engine text after ∧
        after = { engine with options := engine.world.offered } ∧
        (∀ key choice, after.options.lookup key = some choice ↔ (key, choice) ∈ after.options) ∧
        ReadAs text (optionScreen after.optionTitles) ∧
        ∀ titles, (∀ entry ∈ titles, IsLegible entry) →
          joinLines (optionScreen titles) = joinLines (optionScreen after.optionTitles) →
          titles = after.optionTitles) ∧
    ∀ engine : Engine, engine.ItemsClear → ∃ text after,
      Play.Gives Play.describeInventory engine text after ∧
        after = { engine with items := engine.world.carried } ∧
        (∀ key item, after.items.lookup key = some item ↔ (key, item) ∈ after.items) ∧
        ReadAs text (itemScreen after.itemTitles after.itemsWay) ∧
        ∀ titles way, (∀ entry ∈ titles, IsLegible entry) → '[' ∉ way.toList →
          joinLines (itemScreen titles way) = joinLines (itemScreen after.itemTitles after.itemsWay) →
          titles = after.itemTitles ∧ way = after.itemsWay := by
  constructor
  · intro engine clear
    obtain ⟨text, after, gives⟩ := exists_describeOptions clear.decides
    obtain ⟨rfl, rfl⟩ := Play.shows_describeOptions gives
    have legible : ∀ entry ∈ engine.world.offered.map engine.titled, IsLegible entry :=
      List.forall_mem_map.2 clear.isLegible
    have reads := reads_options clear
    refine ⟨_, _, gives, rfl, ?_, reads, ?_⟩
    · exact fun key choice => lookup_iff_mem (World.nodup_keys_offered engine.world)
    · exact fun titles alsoLegible same => eq_of_spacedLines keyKind alsoLegible legible same
  · intro engine clear
    obtain ⟨text, after, gives⟩ := exists_describeInventory clear.decides
    obtain ⟨rfl, rfl⟩ := Play.shows_describeInventory gives
    have legible : ∀ entry ∈ engine.world.carried.map engine.named, IsLegible entry :=
      List.forall_mem_map.2 clear.isLegible
    have reads := reads_items clear
    refine ⟨_, _, gives, rfl, ?_, reads, ?_⟩
    · exact fun key item => lookup_iff_mem (World.nodup_keys_carried engine.world)
    · exact fun titles way alsoLegible plain same => eq_of_itemScreen alsoLegible legible plain
        (not_mem_way clear.exitName clear.focusName) same

instance (engine : Engine) : Decidable engine.OptionsClear :=
  decidable_of_iff (engine.world.Decides engine.world.optionPaths ∧ '[' ∉ engine.exitName.toList ∧
      ∀ entry ∈ engine.world.offered, '[' ∉ (engine.nameOf entry.2).toList)
    ⟨fun ⟨decides, exitName, names⟩ => ⟨decides, exitName, names⟩,
      fun ⟨decides, exitName, names⟩ => ⟨decides, exitName, names⟩⟩

instance (engine : Engine) : Decidable engine.ItemsClear :=
  decidable_of_iff (engine.world.Decides engine.world.itemPaths ∧ '[' ∉ engine.exitName.toList ∧
      (∀ entry ∈ engine.world.carried, '[' ∉ (engine.world.nameOf entry.2).toList) ∧
      '[' ∉ (engine.world.nameOf engine.world.focus).toList)
    ⟨fun ⟨decides, exitName, names, focusName⟩ => ⟨decides, exitName, names, focusName⟩,
      fun ⟨decides, exitName, names, focusName⟩ => ⟨decides, exitName, names, focusName⟩⟩

/-- What is read in the dark hall when the lamp is lit. -/
theorem menus_legible_darkHall :
    ∃ world step, darkHall.build {} = .ok world ∧
      step ∈ (start world usualExitName).play ["i", "1", "1", "x", "x"] ∧
      step.2.OptionsClear ∧ step.2.ItemsClear ∧
      (∃ text after, Play.Gives Play.describeOptions step.2 text after ∧
        ReadAs text ["[1] Climb", "", "[a] Attic"]) ∧
      ∃ text after, Play.Gives Play.describeInventory step.2 text after ∧
        ReadAs text ["INVENTORY", "", "[1] Lamp", "[X] Back to Hall"] := by
  have checked : (darkHall.build {}).toOption.any (fun world =>
      ((start world usualExitName).play ["i", "1", "1", "x", "x"])[5]?.any fun step =>
        decide (step.2.OptionsClear ∧ step.2.ItemsClear ∧
          optionScreen (step.2.world.offered.map step.2.titled) = ["[1] Climb", "", "[a] Attic"] ∧
          itemScreen (step.2.world.carried.map step.2.named) step.2.itemsWay =
            ["INVENTORY", "", "[1] Lamp", "[X] Back to Hall"])) = true := by
    decide +kernel
  obtain ⟨world, built, checked⟩ := (Option.any_eq_true _ _).1 checked
  obtain ⟨step, found, checked⟩ := (Option.any_eq_true _ _).1 checked
  obtain ⟨options, items, optionLines, itemLines⟩ := of_decide_eq_true checked
  obtain ⟨text, after, shown, rfl, _, reads, _⟩ := menus_legible.1 step.2 options
  obtain ⟨other, listed, alsoShown, rfl, _, alsoReads, _⟩ := menus_legible.2 step.2 items
  exact ⟨world, step, eq_ok_of_toOption built, List.mem_of_getElem? found, options, items,
    ⟨text, _, shown, optionLines ▸ reads⟩, other, _, alsoShown, itemLines ▸ alsoReads⟩

end Engine

end Narrative

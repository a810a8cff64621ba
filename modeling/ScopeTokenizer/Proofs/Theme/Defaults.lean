import Mathlib.Data.List.TakeWhile
import ScopeTokenizer.Proofs.Theme.Scanning

/-!
# Entries that set the defaults

The style of text that no rule applies to is set by the entries without a scope, and by those of
whose scopes one is blank, as it is between two commas. They do so in the order in which they are
written, although they are found by sorting. Other entries leave the defaults as they are.
-/

namespace ScopeTokenizer.Theme

open Std Style Text

/-! ## Defaults of a theme -/

/-- The style of text that no rule applies to, with colors as texts. -/
def defaultsOf (definition : ThemeDef) : Defaults :=
  ((sortedEntries definition).takeWhile (·.scope == "")).foldl Defaults.update {}

/-- The number of the default foreground, and the colors then. -/
def Defaults.foregroundNumber (defaults : Defaults) : Nat × ColorMap :=
  ColorMap.intern {} (some defaults.foreground)

/-- The number of the default background, and the colors then. -/
def Defaults.backgroundNumber (defaults : Defaults) : Nat × ColorMap :=
  defaults.foregroundNumber.2.intern (some defaults.background)

/-- The default colors are numbered first, and then those of the entries that have a scope. -/
theorem ofDefinition_eq (definition : ThemeDef) :
    ofDefinition definition =
      let defaults := defaultsOf definition
      let state := ((sortedEntries definition).filter (·.scope ≠ "")).foldl addEntry
        (defaults.backgroundNumber.2, {})
      { name := definition.name
        colors := state.1
        defaults := ⟨0, [], ⟨some defaults.font, defaults.foregroundNumber.1,
          defaults.backgroundNumber.1⟩⟩
        trie := state.2 } := by
  rw [← dropWhile_unscoped]
  unfold ofDefinition defaultsOf Defaults.backgroundNumber Defaults.foregroundNumber
  dsimp only

/-- The style of text that no rule applies to: its font, its foreground and its background. -/
def fallback (theme : Theme) : Option Font × Option String × Option String :=
  (theme.defaults.look.font, theme.colors.color? theme.defaults.look.foreground,
    theme.colors.color? theme.defaults.look.background)

/-- The numbers of the default colors lead back to these. -/
theorem fallback_ofDefinition (definition : ThemeDef) :
    fallback (ofDefinition definition) =
      (some (defaultsOf definition).font,
        some (ColorMap.normal (defaultsOf definition).foreground),
        some (ColorMap.normal (defaultsOf definition).background)) := by
  rw [ofDefinition_eq]
  generalize defaultsOf definition = defaults
  have foreground : defaults.foregroundNumber.2.number? defaults.foreground =
      some defaults.foregroundNumber.1 := ColorMap.number?_intern {} defaults.foreground
  have background : defaults.backgroundNumber.2.number? defaults.background =
      some defaults.backgroundNumber.1 := ColorMap.number?_intern _ defaults.background
  have between : defaults.foregroundNumber.2.colors <+: defaults.backgroundNumber.2.colors :=
    ColorMap.colors_prefix_intern _ (some defaults.background)
  have grown := colors_prefix_foldl_addEntry
    ((sortedEntries definition).filter (·.scope ≠ "")) (defaults.backgroundNumber.2, {})
  dsimp only [fallback]
  have foreground' := ColorMap.number?_of_isPrefix (between.trans grown) foreground
  rw [ColorMap.number?_eq_some_iff.mp foreground',
    ColorMap.number?_eq_some_iff.mp (ColorMap.number?_of_isPrefix grown background)]

/-! ## Entries without a scope -/

/-- Whether a scope has nothing but blanks. -/
def isBlankScope (name : String) : Bool := (words Unicode.isBlank name.toList).isEmpty

theorem ofText_of_isBlankScope {name : String} (blank : isBlankScope name = true) (index : Nat)
    (settings : Settings) :
    (ScopedEntry.ofText index settings name).scope = "" ∧
      (ScopedEntry.ofText index settings name).parents = [] := by
  rw [isBlankScope, List.isEmpty_iff] at blank
  rw [ScopedEntry.ofText, blank]
  exact ⟨rfl, rfl⟩

theorem scope_ofText_eq_iff (index : Nat) (settings : Settings) (name : String) :
    (ScopedEntry.ofText index settings name).scope = "" ↔ isBlankScope name = true := by
  refine ⟨fun empty => ?_, fun blank => (ofText_of_isBlankScope blank index settings).1⟩
  rw [isBlankScope, List.isEmpty_iff]
  cases last : (words Unicode.isBlank name.toList).getLast? with
  | none => exact List.getLast?_eq_none_iff.mp last
  | some word =>
    have filled := List.of_mem_filter (List.mem_of_getLast? last)
    have scope : (ScopedEntry.ofText index settings name).scope = String.ofList word := by
      simp [ScopedEntry.ofText, List.head?_reverse, last]
    rw [scope, String.ofList_eq_empty_iff] at empty
    exact absurd empty (of_decide_eq_true filled)

/-! ## Entries in the order in which they are written -/

/-- The entries for the scopes of one entry. -/
def EntryDef.parts (entry : EntryDef) (index : Nat) : List ScopedEntry :=
  match entry.settings with
  | none => []
  | some settings => (entry.scope.getD [""]).map (ScopedEntry.ofText index settings)

theorem scopedEntries_eq (definition : ThemeDef) :
    scopedEntries definition = definition.entries.zipIdx.flatMap fun place => place.1.parts place.2 :=
  rfl

theorem EntryDef.exists_of_mem_parts {entry : EntryDef} {index : Nat} {part : ScopedEntry}
    (mem : part ∈ entry.parts index) :
    ∃ settings name, part = ScopedEntry.ofText index settings name := by
  unfold parts at mem
  split at mem
  · cases mem
  · next settings _ =>
    obtain ⟨name, -, rfl⟩ := List.mem_map.mp mem
    exact ⟨settings, name, rfl⟩

theorem EntryDef.index_of_mem_parts {entry : EntryDef} {index : Nat} {part : ScopedEntry}
    (mem : part ∈ entry.parts index) : part.index = index := by
  obtain ⟨settings, name, rfl⟩ := exists_of_mem_parts mem
  rfl

theorem pairwise_scopedEntries (definition : ThemeDef) :
    (scopedEntries definition).Pairwise fun first second => first.index ≤ second.index := by
  rw [scopedEntries_eq]
  refine List.pairwise_flatMap.mpr ⟨fun place _ => ?_, ?_⟩
  · refine List.pairwise_of_forall_mem_list fun first one second other => ?_
    rw [EntryDef.index_of_mem_parts one, EntryDef.index_of_mem_parts other]
  · have places : (definition.entries.zipIdx.map Prod.snd).Pairwise (· < ·) := by
      rw [List.zipIdx_map_snd]
      exact List.pairwise_lt_range'
    refine (List.pairwise_map.mp places).imp fun before first one second other => ?_
    rw [EntryDef.index_of_mem_parts one, EntryDef.index_of_mem_parts other]
    exact Nat.le_of_lt before

theorem parents_of_unscoped {definition : ThemeDef} {part : ScopedEntry}
    (mem : part ∈ scopedEntries definition) (unscoped : part.scope = "") : part.parents = [] := by
  rw [scopedEntries_eq] at mem
  obtain ⟨⟨entry, index⟩, -, mem⟩ := List.mem_flatMap.mp mem
  obtain ⟨settings, name, rfl⟩ := EntryDef.exists_of_mem_parts mem
  exact (ofText_of_isBlankScope ((scope_ofText_eq_iff index settings name).mp unscoped) _ _).2

theorem isLE_compare_of_unscoped {first second : ScopedEntry} (scopes : first.scope = second.scope)
    (parents : first.parents = second.parents) (before : first.index ≤ second.index) :
    (first.compare second).isLE = true := by
  have scope : compareText first.scope second.scope = .eq := by
    rw [scopes, compareText, if_neg (String.lt_irrefl _), if_pos rfl]
  have names : compareParents first.parents second.parents = .eq := by
    rw [parents, compareParents, compareTexts_eq]
    simp only [ReflOrd.compare_self]
    rfl
  rw [ScopedEntry.compare, scope, names]
  exact Nat.isLE_compare.mpr before

/-- The entries without a scope are sorted as they are written. -/
theorem takeWhile_unscoped (definition : ThemeDef) :
    (sortedEntries definition).takeWhile (·.scope == "") =
      (scopedEntries definition).filter (·.scope == "") := by
  have first : (sortedEntries definition).takeWhile (·.scope == "") =
      (sortedEntries definition).filter (·.scope == "") := by
    have rest : ((sortedEntries definition).dropWhile (·.scope == "")).filter (·.scope == "") = [] := by
      rw [dropWhile_unscoped, List.filter_filter]
      exact List.filter_eq_nil_iff.mpr fun _ _ => by simp
    have whole := congrArg (List.filter (·.scope == ""))
      (List.takeWhile_append_dropWhile (p := (·.scope == "")) (l := sortedEntries definition))
    rw [List.filter_append, rest, List.append_nil] at whole
    refine whole ▸ (List.filter_eq_self.mpr fun entry mem => ?_).symm
    exact List.mem_takeWhile_imp (p := fun entry : ScopedEntry => entry.scope == "") mem
  rw [first]
  have ordered : ((scopedEntries definition).filter (·.scope == "")).Pairwise fun first second =>
      (first.compare second).isLE = true := by
    refine ((pairwise_scopedEntries definition).filter _).imp_of_mem fun one other before => ?_
    have unscoped := beq_iff_eq.mp (List.mem_filter.mp one).2
    have too := beq_iff_eq.mp (List.mem_filter.mp other).2
    refine isLE_compare_of_unscoped (unscoped.trans too.symm) ?_ before
    rw [parents_of_unscoped (List.mem_of_mem_filter one) unscoped,
      parents_of_unscoped (List.mem_of_mem_filter other) too]
  exact filter_mergeSort ordered

/-! ## Entries of a theme -/

/-- Whether an entry sets defaults: it has no scope, or one of its scopes is blank. -/
def EntryDef.setsDefaults (entry : EntryDef) : Bool :=
  match entry.scope with
  | none => true
  | some names => names.any isBlankScope

/-- The defaults after settings. -/
def Defaults.set (defaults : Defaults) (settings : Settings) : Defaults where
  font := (settings.fontStyle.map Font.ofText).getD defaults.font
  foreground := settings.foregroundColor.getD defaults.foreground
  background := settings.backgroundColor.getD defaults.background

/-- The defaults after an entry. -/
def Defaults.take (defaults : Defaults) (entry : EntryDef) : Defaults :=
  if entry.setsDefaults then entry.settings.elim defaults defaults.set else defaults

theorem Defaults.set_set (defaults : Defaults) (settings : Settings) :
    (defaults.set settings).set settings = defaults.set settings := by
  have again {α : Type} (given : Option α) (other : α) :
      given.getD (given.getD other) = given.getD other := by
    cases given <;> rfl
  simp only [Defaults.set, again]

/-- Several blank scopes of an entry count as one. -/
theorem foldl_update_ofText (defaults : Defaults) (index : Nat) (settings : Settings)
    (names : List String) :
    ((names.map (ScopedEntry.ofText index settings)).filter (·.scope == "")).foldl Defaults.update
      defaults = if names.any isBlankScope then defaults.set settings else defaults := by
  induction names generalizing defaults with
  | nil => rfl
  | cons name names ih =>
    rw [List.map_cons, List.any_cons]
    by_cases blank : isBlankScope name = true
    · have unscoped := (scope_ofText_eq_iff index settings name).mpr blank
      have updated : defaults.update (ScopedEntry.ofText index settings name) =
          defaults.set settings := rfl
      rw [List.filter_cons, if_pos (beq_iff_eq.mpr unscoped), List.foldl_cons, updated, ih,
        Defaults.set_set, ite_self, blank, Bool.true_or, if_pos rfl]
    · have other := mt (scope_ofText_eq_iff index settings name).mp blank
      rw [List.filter_cons, if_neg (mt beq_iff_eq.mp other), ih, Bool.eq_false_iff.mpr blank,
        Bool.false_or]

theorem EntryDef.foldl_update_parts (defaults : Defaults) (entry : EntryDef) (index : Nat) :
    ((entry.parts index).filter (·.scope == "")).foldl Defaults.update defaults =
      defaults.take entry := by
  obtain ⟨scope, settings⟩ := entry
  cases settings with
  | none => exact (ite_self defaults).symm
  | some settings =>
    refine (foldl_update_ofText defaults index settings _).trans ?_
    cases scope with
    | none => rfl
    | some names => rfl

/-- The defaults of a theme are set by its entries one after the other. -/
theorem defaultsOf_eq (definition : ThemeDef) :
    defaultsOf definition = definition.entries.foldl Defaults.take {} := by
  rw [defaultsOf, takeWhile_unscoped, scopedEntries_eq, List.filter_flatMap, List.foldl_flatMap]
  simp only [EntryDef.foldl_update_parts]
  rw [← List.foldl_map (f := Prod.fst), List.zipIdx_map_fst]

theorem EntryDef.setsDefaults_of_names {entry : EntryDef} {names : List String}
    (written : entry.scope = some names) : entry.setsDefaults = names.any isBlankScope := by
  rw [setsDefaults, written]

/-- An entry that sets no defaults may be replaced by another one of that kind. -/
theorem foldl_take_set {entries : List EntryDef} {index : Nat} {entry other : EntryDef}
    (at_index : entries[index]? = some entry) (inert : entry.setsDefaults = false)
    (too : other.setsDefaults = false) (defaults : Defaults) :
    (entries.set index other).foldl Defaults.take defaults =
      entries.foldl Defaults.take defaults := by
  have skipped {entry : EntryDef} (inert : entry.setsDefaults = false) (defaults : Defaults) :
      defaults.take entry = defaults := by
    rw [Defaults.take, inert]
    rfl
  induction entries generalizing index defaults with
  | nil => rfl
  | cons first entries ih =>
    cases index with
    | zero =>
      cases at_index
      rw [List.set_cons_zero, List.foldl_cons, List.foldl_cons, skipped inert, skipped too]
    | succ index => exact ih at_index (defaults.take first)

/-- The style of text that no rule applies to is what the entries set that have no scope, or a blank
one among their scopes, one after the other. An entry of whose scopes none is blank has no part in
it: with any other settings in its place, and with none, it is the same. -/
theorem blank_scopes_set_defaults (definition : ThemeDef) :
    let defaults := definition.entries.foldl Defaults.take {}
    fallback (ofDefinition definition) =
      (some defaults.font, some (ColorMap.normal defaults.foreground),
        some (ColorMap.normal defaults.background)) ∧
    ∀ (index : Nat) (entry : EntryDef) (names : List String),
      definition.entries[index]? = some entry → entry.scope = some names →
      (∀ name ∈ names, isBlankScope name = false) → ∀ settings : Option Settings,
        let entries := definition.entries.set index { entry with settings }
        fallback (ofDefinition { definition with entries }) = fallback (ofDefinition definition) := by
  dsimp only
  constructor
  · rw [fallback_ofDefinition, defaultsOf_eq]
  · intro index entry names at_index written filled settings
    have inert : names.any isBlankScope = false :=
      List.any_eq_false.mpr fun name mem => Bool.eq_false_iff.mp (filled name mem)
    have before : entry.setsDefaults = false :=
      (EntryDef.setsDefaults_of_names written).trans inert
    have after : EntryDef.setsDefaults { entry with settings } = false :=
      (EntryDef.setsDefaults_of_names written).trans inert
    rw [fallback_ofDefinition, fallback_ofDefinition, defaultsOf_eq, defaultsOf_eq,
      foldl_take_set at_index before after]

/-- A theme with one entry, which names two scopes. Between its two commas there is a blank one. -/
def twoCommas (settings : Settings) : ThemeDef where
  entries := [⟨some ["comment", "", "string"], some settings⟩]

theorem blank_piece_sets_defaults :
    (ThemeDef.ofJson ("\x7b\"settings\": [\x7b\"scope\": \"comment,,string\", " ++
        "\"settings\": \x7b\"fontStyle\": \"bold\"\x7d\x7d]\x7d")).toOption =
        some (twoCommas { fontStyle := some "bold" }) ∧
      (fallback (ofDefinition (twoCommas { fontStyle := some "bold" }))).1 = some { bold := true } ∧
      (fallback (ofDefinition (twoCommas {}))).1 = some .plain := by
  refine ⟨by decide +kernel, ?_, ?_⟩
  · rw [fallback_ofDefinition, defaultsOf_eq]
    decide
  · rw [fallback_ofDefinition, defaultsOf_eq]
    decide

end ScopeTokenizer.Theme

import Mathlib.Data.List.Nodup
import ScopeTokenizer.Proofs.Grammar.Reordering
import ScopeTokenizer.Proofs.Grammar.Ways

/-!
# Retracing ways

If the patterns of one rule are written in another order, each way through the grammars can be
retraced through the grammars as they were before. Step by step it leads to what stood at the place
before, and sees the same named rules there.
-/

namespace ScopeTokenizer.Grammar

open Text

/-! ## Places before -/

section Places

variable {order : List Nat} {count : Nat}

theorem Step.origin_inj (reorders : order.Perm (List.range count)) {one other : Step}
    (same : one.origin order = other.origin order) : one = other := by
  have distinct : order.Nodup := reorders.nodup_iff.mpr List.nodup_range
  have length : order.length = count := reorders.length_eq.trans List.length_range
  have inside {index : Nat} (below : index < order.length) : order[index] < order.length :=
    length ▸ List.mem_range.mp (reorders.mem_iff.mp (List.getElem_mem below))
  cases one with
  | pattern one =>
    cases other with
    | pattern other =>
      simp only [origin, Step.pattern.injEq] at same ⊢
      by_cases below : one < order.length <;> by_cases below' : other < order.length
      · simp only [List.getElem?_eq_getElem below, List.getElem?_eq_getElem below',
          Option.getD_some] at same
        exact (List.Nodup.getElem_inj_iff distinct).mp same
      · have := inside below
        simp [below, List.getElem?_eq_none (Nat.le_of_not_lt below')] at same
        omega
      · have := inside below'
        simp [below', List.getElem?_eq_none (Nat.le_of_not_lt below)] at same
        omega
      · simpa [List.getElem?_eq_none (Nat.le_of_not_lt below),
          List.getElem?_eq_none (Nat.le_of_not_lt below')] using same
    | _ => cases same
  | _ => cases other <;> first | exact same | cases same

theorem originPath_inj (reorders : order.Perm (List.range count)) {holder one other : List Step}
    (same : originPath holder order one = originPath holder order other) : one = other := by
  induction one generalizing other with
  | nil =>
    cases other with
    | nil => rfl
    | cons step outer => cases same
  | cons step outer ih =>
    cases other with
    | nil => cases same
    | cons step' outer' =>
      obtain ⟨first, rest⟩ := List.cons.inj same
      obtain rfl := ih rest
      split at first
      · rw [Step.origin_inj reorders first]
      · rw [first]

theorem Site.origin_inj (reorders : order.Perm (List.range count)) {holder one other : Site}
    (same : holder.origin order one = holder.origin order other) : one = other := by
  have grammar := congrArg Site.grammar same
  rw [Site.grammar_origin, Site.grammar_origin] at grammar
  obtain ⟨scope, path⟩ := one
  obtain ⟨scope', path'⟩ := other
  obtain rfl : scope = scope' := grammar
  unfold Site.origin at same
  split at same
  · have path : originPath holder.path order path = originPath holder.path order path' :=
      congrArg Site.path same
    exact congrArg _ (originPath_inj reorders path)
  · exact same

/-- A step into a rule leads from where the rule stood, unless it is to one of its patterns. -/
theorem Site.origin_child_of_fixed (holder site : Site) {step : Step}
    (fixed : step.origin order = step) : holder.origin order (site.child step) =
      (holder.origin order site).child step := by
  unfold Site.origin Site.child
  split
  · rw [originPath, fixed, ite_self]
  · rfl

theorem Site.exists_origin_pattern (holder site : Site) (order : List Nat) (index : Nat) :
    ∃ former, holder.origin order (site.child (.pattern index)) =
      (holder.origin order site).child (.pattern former) := by
  by_cases apart : site = holder
  · subst apart
    refine ⟨order[index]?.getD index, ?_⟩
    simp [Site.origin, Site.child, originPath, Step.origin]
  · exact ⟨index, Site.origin_child apart order _⟩

end Places

/-! ## Rules on the outside -/

namespace RuleDef

variable {rule other : RuleDef}

theorem fields_of_outline (alike : rule.outline = other.outline) :
    rule.includeName = other.includeName ∧ rule.matchPattern = other.matchPattern ∧
      rule.beginPattern = other.beginPattern ∧ rule.hasPatterns = other.hasPatterns ∧
      rule.patterns.length = other.patterns.length := by
  have same {α : Type} (field : RuleDef → α) : field rule.outline = field other.outline :=
    congrArg field alike
  have length := same (·.patterns.length)
  have many := same (·.hasPatterns)
  simp only [outline, hasPatterns, List.length_map, List.isEmpty_map] at length many
  exact ⟨same (·.includeName), same (·.matchPattern), same (·.beginPattern), many, length⟩

/-- The names of the rules that a rule has for itself. -/
def ownNames (rule : RuleDef) : List String := (rule.repository.map Keyed.keys).getD []

theorem ownNames_of_outline (alike : rule.outline = other.outline) :
    rule.ownNames = other.ownNames := by
  have keys (rule : RuleDef) : rule.outline.ownNames = rule.ownNames := by
    simp only [ownNames, outline, Option.map_map]
    congr 2
    funext entries
    simp [Keyed.keys, Keyed.mapValues, Function.comp_def]
  rw [← keys, alike, keys]

/-- The lists of captures that a rule has use for. -/
def captureFields (rule : RuleDef) : List CaptureField :=
  let given (field : CaptureField) := if (rule.capturesIn field).isEmpty then .any else field
  match rule.matchPattern, rule.beginPattern, rule.whilePattern with
  | some _, _, _ => [.any]
  | none, none, _ => []
  | none, some _, some _ => [given .begin, given .while]
  | none, some _, none => [given .begin, given .end]

theorem captureFields_outline (rule : RuleDef) :
    rule.outline.captureFields = rule.captureFields := by
  have empty (field : CaptureField) :
      (rule.outline.capturesIn field).isEmpty = (rule.capturesIn field).isEmpty := by
    cases field <;> simp [capturesIn, outline, Keyed.mapValues]
  simp only [captureFields, empty]
  rfl

end RuleDef

namespace Node

theorem captureLists_eq (node : Node) :
    node.captureLists = node.rule.captureFields.map fun field =>
      node.capturesOf field (node.rule.capturesIn field) := by
  have given (field : CaptureField) : node.capturesOr field (node.rule.capturesIn field) =
      node.capturesOf (if (node.rule.capturesIn field).isEmpty then .any else field)
        (node.rule.capturesIn
          (if (node.rule.capturesIn field).isEmpty then .any else field)) := by
    unfold capturesOr
    split <;> rfl
  unfold captureLists RuleDef.captureFields
  cases node.rule.matchPattern with
  | some _ => rfl
  | none =>
    cases node.rule.beginPattern with
    | none => rfl
    | some _ =>
      cases node.rule.whilePattern <;>
        simp only [List.map_cons, List.map_nil, ← given] <;> rfl

theorem getElem?_patterns (node : Node) (index : Nat) : node.patterns[index]? =
    node.rule.patterns[index]?.map fun rule => ⟨node.site.child (.pattern index), rule⟩ := by
  simp [patterns, listedNodes, Function.comp_def]

/-- The rules that a rule has for itself come in place of others. -/
theorem site_find?_extend (node : Node) (repository : Repository) (name : String) :
    ((node.extend repository).find? name).map site =
      if name ∈ node.rule.ownNames then some (node.site.child (.entry name))
      else (repository.find? name).map site := by
  unfold extend RuleDef.ownNames
  cases node.rule.repository with
  | none => simp
  | some entries =>
    dsimp only [Option.map_some, Option.getD_some]
    induction entries generalizing repository with
    | nil => simp [namedNodes, Keyed.keys]
    | cons entry entries ih =>
      obtain ⟨other, rule⟩ := entry
      simp only [namedNodes, Keyed.keys, List.map_cons, List.foldl_cons] at ih ⊢
      rw [ih, Keyed.find?_insert]
      by_cases later : name ∈ List.map Prod.fst entries
      · simp [later]
      · rcases eq_or_ne name other with rfl | apart
        · simp [later]
        · simp [later, apart, apart.symm]

end Node

/-! ## What stood there before -/

/-- Two repositories have the same names, for rules of which one stands where the other one stood
before. -/
def Repository.Moved (origin : Site → Site) (former present : Repository) : Prop :=
  ∀ name, (former.find? name).map Node.site = (present.find? name).map fun node => origin node.site

/-- Two visits, of which one is to what stood there before. -/
inductive Visit.Moved (origin : Site → Site) : Visit → Visit → Prop where
  | rule {outer outer' : List Site} {around around' : Surroundings} {node node' : Node} :
      outer = outer'.map origin → node.site = origin node'.site →
      around.repository.Moved origin around'.repository →
      Moved origin (.rule outer around node) (.rule outer' around' node')
  | grammar {scope : String} {grammar grammar' : LinkedGrammar} :
      grammar.repository.Moved origin grammar'.repository →
      Moved origin (.grammar scope grammar) (.grammar scope grammar')

theorem Repository.Moved.exists_of_find? {origin : Site → Site} {former present : Repository}
    (moved : former.Moved origin present) {name : String} {node' : Node}
    (found : present.find? name = some node') :
    ∃ node, former.find? name = some node ∧ node.site = origin node'.site := by
  have same := moved name
  rw [found] at same
  exact Option.map_eq_some_iff.mp same

namespace Sources

variable {sources : Sources} {holder : Site} {order : List Nat} {rule : RuleDef}

theorem Written.eq_of_site {node other : Node} (written : sources.Written node)
    (written' : sources.Written other) (sorted : sources.Sorted) (same : node.site = other.site) :
    node = other := by
  have rule := written'.descend? sorted
  rw [← same, written.descend? sorted] at rule
  cases node
  cases other
  cases same
  cases rule
  rfl

/-- The inside of a rule sees what it saw before. -/
theorem moved_inside {node other : Node} {around around' : Surroundings}
    (here : node.site = holder.origin order other.site)
    (alike : node.rule.outline = other.rule.outline)
    (moved : around.repository.Moved (holder.origin order) around'.repository) :
    (node.inside around).repository.Moved (holder.origin order)
      (other.inside around').repository := by
  obtain ⟨-, matched, begins, -, -⟩ := RuleDef.fields_of_outline alike
  unfold Node.inside
  rw [matched, begins]
  split
  · intro name
    have names := RuleDef.ownNames_of_outline alike
    have place : node.site.child (.entry name) =
        holder.origin order (other.site.child (.entry name)) := by
      rw [Site.origin_child_of_fixed _ _ rfl, here]
    have extended := other.site_find?_extend around'.repository name
    rw [node.site_find?_extend, names, ← Function.comp_def, ← Option.map_map, extended, place]
    split
    · rfl
    · rw [Option.map_map]
      exact moved name
  · exact moved

section Reordered

variable (sorted : sources.Sorted) (found : sources.descend? holder = some rule)
  (reorders : order.Perm (List.range rule.patterns.length))

include sorted found reorders

/-- Two rules that are written at the place before and at the place now are alike on the
outside. -/
theorem outline_eq_of_written {node other : Node} (written : sources.Written node)
    (written' : (sources.reorder holder order).Written other)
    (here : node.site = holder.origin order other.site) :
    node.rule.outline = other.rule.outline := by
  have same := sorted.outline_descend?_reorder found reorders other.site
  rw [written'.descend? (sorted.reorder holder order), ← here, written.descend? sorted] at same
  exact (Option.some.inj same).symm

/-- A rule of a place was at another place before. -/
theorem exists_former {other : Node} (written' : (sources.reorder holder order).Written other) :
    ∃ node, sources.Written node ∧ node.site = holder.origin order other.site ∧
      node.rule.outline = other.rule.outline := by
  have same := sorted.outline_descend?_reorder found reorders other.site
  rw [written'.descend? (sorted.reorder holder order), Option.map_some] at same
  obtain ⟨former, is, alike⟩ := Option.map_eq_some_iff.mp same.symm
  exact ⟨⟨_, former⟩, sorted.written is, rfl, alike⟩

/-- The named rules of a grammar keep their places. -/
theorem moved_ofDef {scope : String} {grammar : GrammarDef} {base base' : Option Node}
    (is : sources.grammar? scope = some grammar)
    (moved : base.map Node.site = base'.map fun node => holder.origin order node.site) :
    (LinkedGrammar.ofDef grammar base).repository.Moved (holder.origin order)
      (LinkedGrammar.ofDef (grammar.reorder holder order) base').repository := by
  obtain ⟨rfl, -⟩ := sorted.grammar? is
  have self : (LinkedGrammar.selfNode grammar).site =
      holder.origin order (LinkedGrammar.selfNode (grammar.reorder holder order)).site := by
    simp [LinkedGrammar.selfNode, Site.origin_of_top _ _ _ (rfl : Step.self.origin order = .self)]
  intro name
  simp only [LinkedGrammar.ofDef, Keyed.find?_insert, find?_namedNodes,
    GrammarDef.scopeName_reorder]
  split
  · cases base <;> cases base' <;> simp_all
  · split
    · exact congrArg some self
    · have top : (Step.entry name).origin order = .entry name := rfl
      have same := sorted.outline_descend?_reorder found reorders
        ⟨grammar.scopeName, [.entry name]⟩
      simp only [Site.origin_of_top _ _ _ top, Sources.descend?, grammar?_reorder, is,
        Option.map_some, Option.bind_some, GrammarDef.descend?, GrammarDef.part?] at same
      have there := congrArg Option.isSome same
      simp only [Option.isSome_map] at there
      have fixed := Site.origin_of_top holder order grammar.scopeName top
      cases entry : Keyed.find? grammar.repository name <;>
        cases entry' : Keyed.find? (grammar.reorder holder order).repository name <;>
        simp_all [Site.child]

/-- A grammar that is looked up now was there before. -/
theorem exists_link? {scope : String} {base base' : Option Node} {grammar' : LinkedGrammar}
    (moved : base.map Node.site = base'.map fun node => holder.origin order node.site)
    (is : (sources.reorder holder order).link? scope base' = some grammar') :
    ∃ grammar, sources.link? scope base = some grammar ∧
      grammar.repository.Moved (holder.origin order) grammar'.repository := by
  have hostName : (sources.reorder holder order).host.scopeName = sources.host.scopeName :=
    GrammarDef.scopeName_reorder _ _ _
  unfold link? at is ⊢
  rw [hostName] at is
  split at is
  · next host =>
    cases is
    rw [if_pos host]
    exact ⟨_, rfl, moved_ofDef sorted found reorders (if_pos rfl) rfl⟩
  · next other =>
    obtain ⟨definition', found', rfl⟩ := Option.map_eq_some_iff.mp is
    have library := sources.grammar?_reorder holder order scope
    rw [Sources.grammar?, if_neg (hostName ▸ other), found'] at library
    obtain ⟨definition, known, rfl⟩ := Option.map_eq_some_iff.mp library.symm
    have listed : sources.library.find? scope = some definition := by
      rw [Sources.grammar?, if_neg other] at known
      exact known
    rw [if_neg other, listed]
    exact ⟨_, rfl, moved_ofDef sorted found reorders known moved⟩

/-- What is tried inside a rule was tried there before. -/
theorem exists_former_entry {node other entry' : Node} (written : sources.Written node)
    (written' : (sources.reorder holder order).Written other)
    (here : node.site = holder.origin order other.site) (mem : entry' ∈ other.entries) :
    ∃ entry ∈ node.entries, entry.rule.includeName = entry'.rule.includeName ∧
      entry.site = holder.origin order entry'.site := by
  have alike := outline_eq_of_written sorted found reorders written written' here
  obtain ⟨included, matched, begins, many, -⟩ := RuleDef.fields_of_outline alike
  have patterns (mem : entry' ∈ other.patterns) : ∃ entry ∈ node.patterns,
      entry.rule.includeName = entry'.rule.includeName ∧
        entry.site = holder.origin order entry'.site := by
    obtain ⟨entry, writes, place, alike⟩ :=
      exists_former sorted found reorders (.pattern written' mem)
    obtain ⟨index, rule', -, rfl⟩ := Node.mem_patterns.mp mem
    obtain ⟨former, step⟩ := holder.exists_origin_pattern other.site order index
    have listed : node.rule.patterns[former]? = some entry.rule := by
      rw [← writes.descend? sorted, place, step, ← here,
        descend?_child (written.descend? sorted)]
      rfl
    refine ⟨entry, Node.mem_patterns.mpr ⟨former, entry.rule, listed, ?_⟩,
      (RuleDef.fields_of_outline alike).1, place⟩
    rw [here, ← step, ← place]
  unfold Node.entries at mem ⊢
  rw [included, matched, begins, many]
  split at mem
  · cases mem
  · split at mem
    · next many =>
      rw [if_pos many]
      exact patterns mem
    · next few =>
      obtain rfl := List.mem_singleton.mp mem
      rw [if_neg few]
      exact ⟨_, List.mem_singleton.mpr rfl, rfl, here⟩
  · exact patterns mem

/-- What is captured in a rule was captured there before. -/
theorem exists_former_capture {node other inner' : Node} {captures' : List (String × Node)}
    {key : String} (written : sources.Written node)
    (written' : (sources.reorder holder order).Written other)
    (here : node.site = holder.origin order other.site) (lists : captures' ∈ other.captureLists)
    (mem : (key, inner') ∈ captures') :
    ∃ captures ∈ node.captureLists, ∃ inner, (key, inner) ∈ captures ∧
      inner.rule.hasPatterns = inner'.rule.hasPatterns ∧
      inner.site = holder.origin order inner'.site := by
  have alike := outline_eq_of_written sorted found reorders written written' here
  rw [Node.captureLists_eq] at lists
  obtain ⟨field, used, rfl⟩ := List.mem_map.mp lists
  obtain ⟨inner, writes, place, alike'⟩ :=
    exists_former sorted found reorders (.capture written' mem)
  obtain ⟨rule', -, rfl⟩ := exists_of_mem_namedNodes mem
  rw [Site.origin_child_of_fixed _ _ rfl, ← here] at place
  have listed : Keyed.find? (node.rule.capturesIn field) key = some inner.rule := by
    rw [← writes.descend? sorted, place, descend?_child (written.descend? sorted)]
    rfl
  refine ⟨node.capturesOf field (node.rule.capturesIn field), ?_, inner, ?_,
    (RuleDef.fields_of_outline alike').2.2.2.1, ?_⟩
  · rw [Node.captureLists_eq, ← RuleDef.captureFields_outline, alike,
      RuleDef.captureFields_outline]
    exact List.mem_map_of_mem used
  · refine List.mem_map.mpr ⟨(key, inner.rule), Keyed.mem_of_find? listed, ?_⟩
    dsimp only
    rw [← place]
  · rw [place, Site.origin_child_of_fixed _ _ rfl, here]

/-! ## Ways -/

theorem includes_of_moved {node other : Node} {text : String} (written : sources.Written node)
    (written' : (sources.reorder holder order).Written other)
    (here : node.site = holder.origin order other.site) (includes : other.Includes text) :
    node.Includes text := by
  obtain ⟨entry', mem, included⟩ := includes
  obtain ⟨entry, listed, same, -⟩ :=
    exists_former_entry sorted found reorders written written' here mem
  exact ⟨entry, listed, same.trans included⟩

omit sorted found in
/-- What a way passes are the same rules as before, so it is inside of no others. -/
theorem passes_moved {site site' inner inner' : Site} {outer outer' : List Site}
    (passed : outer = outer'.map (holder.origin order)) (here : site = holder.origin order site')
    (place : inner = holder.origin order inner') (apart : inner' ∉ site' :: outer') :
    site :: outer = (site' :: outer').map (holder.origin order) ∧ inner ∉ site :: outer := by
  have passed : site :: outer = (site' :: outer').map (holder.origin order) := by
    rw [here, passed, List.map_cons]
  refine ⟨passed, ?_⟩
  rw [passed, place, List.mem_map_of_injective fun _ _ => Site.origin_inj reorders]
  exact apart

/-- Each way that there is now has been there before. -/
theorem exists_former_way {visit' : Visit}
    (way' : (sources.reorder holder order).Way (sources.reorder holder order).Root visit') :
    ∃ visit, sources.Way sources.Root visit ∧ visit.Moved (holder.origin order) visit' := by
  have inside {outer outer' : List Site} {around around' : Surroundings} {node node' : Node}
      (way : sources.Way sources.Root (.rule outer around node))
      (way' : (sources.reorder holder order).Way (sources.reorder holder order).Root
        (.rule outer' around' node')) (here : node.site = holder.origin order node'.site)
      (moved : around.repository.Moved (holder.origin order) around'.repository) :
      (node.inside around).repository.Moved (holder.origin order)
        (node'.inside around').repository :=
    moved_inside here (outline_eq_of_written sorted found reorders way.written_of_root
      way'.written_of_root here) moved
  induction way' with
  | start root =>
    cases root
    have top : (Step.self).origin order = .self := rfl
    refine ⟨_, .start .host, .rule rfl ?_ (moved_ofDef sorted found reorders (if_pos rfl) rfl)⟩
    simp [base, reorder, LinkedGrammar.selfNode, Site.origin_of_top _ _ _ top]
  | own way' mem included apart ih =>
    obtain ⟨_, way, ⟨passed, here, moved⟩⟩ := ih
    obtain ⟨entry, listed, same, place⟩ := exists_former_entry sorted found reorders
      way.written_of_root way'.written_of_root here mem
    obtain ⟨passed, fresh⟩ := passes_moved reorders passed here place apart
    exact ⟨_, .own way listed (same.trans included) fresh,
      .rule passed place (inside way way' here moved)⟩
  | named way' includes isLocal is apart ih =>
    obtain ⟨_, way, ⟨passed, here, moved⟩⟩ := ih
    have includes := includes_of_moved sorted found reorders way.written_of_root
      way'.written_of_root here includes
    have moved := inside way way' here moved
    obtain ⟨target, is, place⟩ := moved.exists_of_find? is
    obtain ⟨passed, fresh⟩ := passes_moved reorders passed here place apart
    exact ⟨_, .named way includes isLocal is fresh, .rule passed place moved⟩
  | grammar way' includes elsewhere is ih =>
    obtain ⟨_, way, ⟨passed, here, moved⟩⟩ := ih
    have includes := includes_of_moved sorted found reorders way.written_of_root
      way'.written_of_root here includes
    obtain ⟨grammar, is, moved⟩ := exists_link? sorted found reorders
      (inside way way' here moved LinkedGrammar.baseKey) is
    exact ⟨_, .grammar way includes elsewhere is, .grammar moved⟩
  | entry way' includes elsewhere _ is apart ih met =>
    obtain ⟨_, way, ⟨passed, here, -⟩⟩ := ih
    obtain ⟨_, met, moved'⟩ := met
    cases moved' with
    | grammar moved =>
      have includes := includes_of_moved sorted found reorders way.written_of_root
        way'.written_of_root here includes
      obtain ⟨target, is, place⟩ := moved.exists_of_find? is
      obtain ⟨passed, fresh⟩ := passes_moved reorders passed here place apart
      exact ⟨_, .entry way includes elsewhere met is fresh, .rule passed place moved⟩
  | capture way' lists mem number many apart ih =>
    obtain ⟨_, way, ⟨passed, here, moved⟩⟩ := ih
    obtain ⟨captures, lists, inner, mem, same, place⟩ := exists_former_capture sorted found reorders
      way.written_of_root way'.written_of_root here lists mem
    obtain ⟨passed, fresh⟩ := passes_moved reorders passed here place apart
    exact ⟨_, .capture way lists mem number (same.trans many) fresh, .rule passed place moved⟩

/-- An include that means a rule now meant one that stood there before. -/
theorem exists_former_means {inside inside' there' : Surroundings} {text : String} {target' : Node}
    (moved : inside.repository.Moved (holder.origin order) inside'.repository)
    (means' : (sources.reorder holder order).Means (sources.reorder holder order).Root inside' text
      there' target') :
    ∃ there target, sources.Means sources.Root inside text there target ∧
      target.site = holder.origin order target'.site := by
  cases means' with
  | named isLocal is =>
    obtain ⟨target, is, place⟩ := moved.exists_of_find? is
    exact ⟨_, target, .named isLocal is, place⟩
  | entry elsewhere met' is =>
    obtain ⟨_, met, moved'⟩ := exists_former_way sorted found reorders met'
    cases moved' with
    | grammar moved =>
      obtain ⟨target, is, place⟩ := moved.exists_of_find? is
      exact ⟨_, target, .entry elsewhere met is, place⟩

end Reordered

end Sources

end ScopeTokenizer.Grammar

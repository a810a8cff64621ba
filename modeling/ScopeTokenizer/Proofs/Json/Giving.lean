import ScopeTokenizer.Json.Value

/-!
# What is read from texts

Values of other types are put together from the shapes of a JSON text. If the parts have some
property, whatever is read has it in all its parts: one lemma for each shape. Nothing is said about
texts that are not read.
-/

namespace ScopeTokenizer.Json

namespace Reader

variable {α β σ : Type} {post : α → Prop} {last : β → Prop}

/-- All that a reader gives has a property. -/
def Gives (reader : Reader α) (post : α → Prop) : Prop :=
  ∀ source a rest, StateT.run reader source = .ok (a, rest) → post a

namespace Gives

theorem pure {a : α} (given : post a) : Gives (Pure.pure a) post := by
  intro source b rest run
  cases run
  exact given

theorem throw (fault : Fault) : Gives (throw fault) post := by
  intro source a rest run
  cases run

theorem bind {first : Reader α} {next : α → Reader β} (start : first.Gives post)
    (others : ∀ a, post a → (next a).Gives last) : (first >>= next).Gives last := by
  intro source b rest run
  rw [StateT.run_bind] at run
  cases given : StateT.run first source with
  | error fault =>
    rw [given] at run
    cases run
  | ok answer =>
    rw [given] at run
    exact others answer.1 (start source answer.1 answer.2 given) answer.2 b rest run

theorem after {first : Reader α} {next : α → Reader β} (others : ∀ a, (next a).Gives last) :
    (first >>= next).Gives last := by
  have any : first.Gives fun _ => True := fun _ _ _ _ => trivial
  exact any.bind fun a _ => others a

theorem guarded {refused : Prop} [Decidable refused] {fault : Fault} {next : PUnit → Reader β}
    (others : (next ⟨⟩).Gives last) :
    Gives (if refused then MonadExcept.throw fault >>= next else next ⟨⟩) last := by
  split
  · exact after fun _ => others
  · exact others

end Gives

theorem gives_wrongShape : (wrongShape : Reader α).Gives post := by
  unfold wrongShape
  refine Gives.after ?_
  intro next
  split
  · exact .throw _
  · exact .after fun _ => .after fun _ => .throw _
  · exact .after fun _ => .after fun _ => .throw _
  · exact .after fun _ => .after fun _ => .throw _
  · exact .after fun _ => .after fun _ => .throw _
  · exact .throw _
  · exact .throw _
  · split
    · exact .after fun _ => .throw _
    · exact .throw _

theorem gives_nested {contents : Reader α} (each : contents.Gives post) :
    (nested contents).Gives post := by
  unfold nested
  refine Gives.after ?_
  intro source
  have inside : Gives (do
      set { source with text := source.text.drop 1, room := source.room - 1 }
      let value ← contents
      modify fun inner => { inner with room := source.room }
      return value) post :=
    .after fun _ => .bind each fun value given => .after fun _ => .pure given
  split
  · exact .after fun _ => inside
  · exact inside

theorem gives_elements {element : Reader α} (each : element.Gives post) (bound : Nat)
    (first : Bool) : (elements element bound first).Gives (∀ a ∈ ·, post a) := by
  induction bound generalizing first with
  | zero => exact .throw _
  | succ bound ih =>
    unfold elements
    refine Gives.after ?_
    intro more
    split
    · refine Gives.bind each ?_
      intro value given
      refine Gives.bind (ih false) ?_
      intro values others
      refine Gives.pure ?_
      exact List.forall_mem_cons.mpr ⟨given, others⟩
    · exact .pure (List.forall_mem_nil _)

theorem gives_entries {value : Reader α} (each : value.Gives post) (bound : Nat) (first : Bool) :
    (entries value bound first).Gives (∀ entry ∈ ·, post entry.2) := by
  induction bound generalizing first with
  | zero => exact .throw _
  | succ bound ih =>
    unfold entries
    refine Gives.after ?_
    intro more
    split
    · refine .after fun _ => .after fun key => .after fun _ => ?_
      refine Gives.bind each ?_
      intro value given
      refine Gives.bind (ih false) ?_
      intro values others
      refine Gives.pure ?_
      exact List.forall_mem_cons.mpr ⟨given, others⟩
    · exact .pure (List.forall_mem_nil _)

theorem gives_list {element : Reader α} (each : element.Gives post) :
    (list element).Gives (∀ a ∈ ·, post a) := by
  unfold list
  refine Gives.after ?_
  intro next
  split
  · refine Gives.bind (gives_nested (.after fun bound => gives_elements each bound true)) ?_
    intro values given
    exact .after fun _ => .pure given
  · exact gives_wrongShape

theorem gives_map {value : Reader α} (each : value.Gives post) :
    (map value).Gives (∀ entry ∈ ·, post entry.2) := by
  unfold map
  refine Gives.after ?_
  intro next
  split
  · refine Gives.bind (gives_nested (.after fun bound => gives_entries each bound true)) ?_
    intro values given
    exact .after fun _ => .pure given
  · exact gives_wrongShape

theorem gives_optional {value : Reader α} (each : value.Gives post) :
    (optional value).Gives (∀ a ∈ ·, post a) := by
  unfold optional
  refine Gives.after ?_
  intro next
  split
  · exact .after fun _ => .after fun _ => .pure nofun
  · refine Gives.bind each ?_
    intro a given
    refine Gives.pure ?_
    intro other is
    cases is
    exact given

/-! ## Records -/

variable {holds : σ → Prop} {fields : List (FieldReader σ)}

/-- Each field that is read keeps a property of records. -/
def Keep (fields : List (FieldReader σ)) (holds : σ → Prop) : Prop :=
  ∀ field ∈ fields, field.read.Gives fun change => ∀ record, holds record → holds (change record)

theorem gives_objectFields (keep : Keep fields holds) (bound : Nat) (first : Bool)
    (seen : List Nat) {record : σ} (start : holds record) :
    (objectFields fields bound first seen record).Gives holds := by
  induction bound generalizing first seen record with
  | zero => exact .throw _
  | succ bound ih =>
    unfold objectFields
    refine Gives.after ?_
    intro more
    split
    · refine .after fun _ => .after fun key => ?_
      split
      · exact .after fun _ => .after fun _ => ih false seen start
      · refine Gives.guarded (.after fun _ => ?_)
        split
        · exact ih false seen start
        · next field found =>
          refine Gives.bind (keep field (List.mem_of_getElem? found)) ?_
          intro change keeps
          exact ih false _ (keeps record start)
    · exact .pure start

theorem gives_arrayFields (complete : Bool) (keep : Keep fields holds) (first : Bool)
    {record : σ} (start : holds record) :
    (arrayFields complete fields first record).Gives holds := by
  induction fields generalizing first record with
  | nil => exact .pure start
  | cons field fields ih =>
    obtain ⟨keeps, others⟩ := List.forall_mem_cons.mp keep
    unfold arrayFields
    refine Gives.after ?_
    intro more
    split
    · refine Gives.bind keeps ?_
      intro change keeps
      exact ih others false (keeps record start)
    · split
      · exact .throw _
      · exact .pure start

theorem gives_record (complete : Bool) (keep : Keep fields holds) {empty : σ}
    (start : holds empty) : (record fields empty complete).Gives holds := by
  unfold record
  refine Gives.after ?_
  intro next
  split
  · refine Gives.bind (gives_nested (gives_arrayFields complete keep true start)) ?_
    intro value given
    exact .after fun _ => .pure given
  · refine Gives.bind (gives_nested (.after fun bound =>
      gives_objectFields keep bound true [] start)) ?_
    intro value given
    exact .after fun _ => .pure given
  · exact gives_wrongShape

theorem Gives.run {reader : Reader α} (gives : reader.Gives post) {text : String} {a : α}
    (run : reader.run text = .ok a) : post a := by
  unfold Reader.run at run
  cases given : StateT.run reader ⟨text.toList, maxDepth⟩ with
  | error fault =>
    rw [given] at run
    cases run
  | ok answer =>
    rw [given] at run
    simp only [Except.bind, Bind.bind] at run
    split at run
    · cases run
      exact gives _ answer.1 answer.2 given
    · cases run

end Reader

namespace Value

theorem exists_of_mem_mapM {α β : Type} {f : α → Option β} {list : List α} {made : List β} {b : β}
    (is : list.mapM f = some made) (mem : b ∈ made) : ∃ a ∈ list, f a = some b := by
  induction list generalizing made with
  | nil =>
    cases is
    cases mem
  | cons a list ih =>
    rw [List.mapM_cons] at is
    obtain ⟨first, head, is⟩ := Option.bind_eq_some_iff.mp is
    obtain ⟨rest, tail, is⟩ := Option.bind_eq_some_iff.mp is
    cases is
    rcases List.mem_cons.mp mem with rfl | mem
    · exact ⟨a, List.mem_cons_self, head⟩
    · obtain ⟨other, among, is⟩ := ih tail mem
      exact ⟨other, List.mem_cons_of_mem _ among, is⟩

/-! ## Records -/

variable {σ : Type} {holds : σ → Prop} {slots : List (Slot σ)}

/-- Each slot that is filled keeps a property of records. -/
def Keep (slots : List (Slot σ)) (holds : σ → Prop) : Prop :=
  ∀ slot ∈ slots, ∀ value change, slot.fill value = some change →
    ∀ record, holds record → holds (change record)

theorem holds_of_fillInOrder (keep : Keep slots holds) {record filled : σ} {values : List Value}
    (start : holds record) (is : fillInOrder slots record values = some filled) :
    holds filled := by
  fun_induction fillInOrder slots record values with
  | case1 =>
    cases is
    exact start
  | case2 => cases is
  | case3 slot slots record value values ih =>
    obtain ⟨keeps, others⟩ := List.forall_mem_cons.mp keep
    obtain ⟨change, fills, is⟩ := Option.bind_eq_some_iff.mp is
    exact ih change others (keeps value change fills record start) is

theorem holds_of_fillByName (keep : Keep slots holds) {seen : List String} {record filled : σ}
    {entries : List (String × Value)} (start : holds record)
    (is : fillByName slots seen record entries = some filled) : holds filled := by
  fun_induction fillByName slots seen record entries with
  | case1 =>
    cases is
    exact start
  | case2 seen record key value entries unknown ih => exact ih start is
  | case3 => cases is
  | case4 seen record key value entries slot found fresh ih =>
    obtain ⟨change, fills, is⟩ := Option.bind_eq_some_iff.mp is
    exact ih change (keep slot (List.mem_of_find?_eq_some found) value change fills record start) is

theorem holds_of_record? (keep : Keep slots holds) {empty filled : σ} {value : Value}
    (start : holds empty) (is : record? slots empty value = some filled) : holds filled := by
  unfold record? at is
  split at is
  · exact holds_of_fillInOrder keep start is
  · exact holds_of_fillByName keep start is
  · cases is

end Value
end ScopeTokenizer.Json

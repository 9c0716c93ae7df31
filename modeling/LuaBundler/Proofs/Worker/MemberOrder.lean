import LuaBundler.Proofs.Json.Members
import LuaBundler.Proofs.Worker.Protocol

/-!
# Reports with their members in another order

A worker may write the members of the objects in its report in any order, and may add others that
the reader does not know: the same report is read (`Report.ofJson?_of_rearranges`). A report in
which the tag or a field of an object comes twice is not read at all
(`Report.ofJson?_eq_none_of_repeats`), whatever else is in it.

Which names an object may not have twice depends on what is read of it: a text has no prelude, so a
member of that name is one that is passed over. So the lemmas are about a document that was read
(`Report`, `Output`, `RegisteredModule`) and what is made of it, object by object.
-/

namespace LuaBundler

open Text

namespace Json

theorem Value.string?_eq_some_iff {v : Value} {s : String} :
    v.string? = some s ↔ v = .string s := by
  cases v <;> simp [string?]

theorem Value.items?_eq_some_iff {v : Value} {vs : List Value} :
    v.items? = some vs ↔ v = .array vs := by
  cases v <;> simp [items?]

theorem Value.tagged?_object_eq_some_iff {ms : List (String × Value)} {tag : String} {v : Value}
    {payload : Payload} : (object ms).tagged? tag = some (v, payload) ↔
      onlyMember? tag ms = some v ∧ payload = .members (ms.filter fun m ↦ m.1 != tag) := by
  rw [tagged?, Option.map_eq_some_iff]
  simp [eq_comm]

end Json

namespace Bundle

open Json

/-! ### What is read of an object -/

section

variable {ms : List (String × Value)}

theorem RegisteredModule.ofJson?_object_iff {m : RegisteredModule} :
    ofJson? (.object ms) = some m ↔
      onlyMember? "name" ms = some (.string m.name) ∧
      onlyMember? "body" ms = some (.string m.body) := by
  obtain ⟨name, body⟩ := m
  simp [ofJson?, Value.payload?, Payload.fields?, Option.bind_eq_some_iff,
    Value.string?_eq_some_iff]

/-- The values of a document's fields are found among members. -/
@[mk_iff]
structure Document.IsIn (ms : List (String × Value)) (d : Document) : Prop where
  prelude : onlyMember? "prelude" ms = some (.string d.prelude)
  modules : ∃ vs, onlyMember? "modules" ms = some (.array vs) ∧
    vs.mapM RegisteredModule.ofJson? = some d.modules
  epilogue : onlyMember? "epilogue" ms = some (.string d.epilogue)

theorem Document.ofPayload?_members_iff {d : Document} :
    ofPayload? (.members ms) = some d ↔ d.IsIn ms := by
  obtain ⟨prelude, modules, epilogue⟩ := d
  have hread : ofPayload? (.members ms) = some ⟨prelude, modules, epilogue⟩ ↔
      ∃ vs, (onlyMember? "prelude" ms = some (.string prelude) ∧
        onlyMember? "modules" ms = some (.array vs) ∧
        onlyMember? "epilogue" ms = some (.string epilogue)) ∧
        vs.mapM RegisteredModule.ofJson? = some modules := by
    simp [ofPayload?, Payload.fields?, Option.bind_eq_some_iff, Value.string?_eq_some_iff,
      Value.items?_eq_some_iff]
  rw [hread]
  constructor
  · rintro ⟨vs, ⟨hprelude, hvs, hepilogue⟩, hmodules⟩
    exact ⟨hprelude, ⟨vs, hvs, hmodules⟩, hepilogue⟩
  · rintro ⟨hprelude, ⟨vs, hvs, hmodules⟩, hepilogue⟩
    exact ⟨vs, ⟨hprelude, hvs, hepilogue⟩, hmodules⟩

/-- The fields of a bundle are found among members; its variant is the given one. -/
def Output.IsIn (ms : List (String × Value)) : Nat → Output → Prop
  | 0, structured d => d.IsIn ms
  | _ + 1, text t => onlyMember? "text" ms = some (.string t)
  | _, _ => False

/-- **What is read of an object as a bundle** is what its tag and its fields say. -/
theorem Output.ofJson?_object_iff {output : Output} {byIndex : Bool} :
    ofJson? byIndex (.object ms) = some output ↔ ∃ tag, onlyMember? "format" ms = some tag ∧
      ∃ n, tag.variant? ["structured", "text"] byIndex = some n ∧ output.IsIn ms n := by
  have hdocument : ∀ d : Document, d.IsIn (ms.filter fun m ↦ m.1 != "format") ↔ d.IsIn ms := by
    intro d
    simp only [Document.isIn_iff, onlyMember?_filter_ne, ne_eq, String.reduceEq, not_false_eq_true]
  simp only [ofJson?, Option.bind_eq_bind, Option.bind_eq_some_iff, Prod.exists,
    Value.tagged?_object_eq_some_iff, and_assoc, exists_and_left, exists_eq_left]
  refine exists_congr fun tag ↦ and_congr_right fun _ ↦ exists_congr fun n ↦
    and_congr_right fun _ ↦ ?_
  cases n <;> cases output <;>
    simp [IsIn, Option.bind_eq_some_iff, Document.ofPayload?_members_iff, hdocument,
      Payload.fields?, Value.string?_eq_some_iff, onlyMember?_filter_ne]

/-- The field of a report is found among members; its variant is the given one. -/
def Report.IsIn (ms : List (String × Value)) : Nat → Report → Prop
  | 0, success output =>
    ∃ v, onlyMember? "bundle" ms = some v ∧ Output.ofJson? true v = some output
  | _ + 1, failure diagnostic => onlyMember? "diagnostic" ms = some (.string diagnostic)
  | _, _ => False

/-- **What is read of an object as a report** is what its tag and its field say. -/
theorem Report.ofJson?_object_iff {r : Report} :
    ofJson? (.object ms) = some r ↔ ∃ tag, onlyMember? "status" ms = some tag ∧
      ∃ n, tag.variant? ["success", "failure"] false = some n ∧ r.IsIn ms n := by
  simp only [ofJson?, Option.bind_eq_bind, Option.bind_eq_some_iff, Prod.exists,
    Value.tagged?_object_eq_some_iff, and_assoc, exists_and_left, exists_eq_left]
  refine exists_congr fun tag ↦ and_congr_right fun _ ↦ exists_congr fun n ↦
    and_congr_right fun _ ↦ ?_
  cases n <;> cases r <;>
    simp [IsIn, Option.bind_eq_some_iff, Payload.fields?, Value.string?_eq_some_iff,
      onlyMember?_filter_ne]

end

/-! ### Rearranged reports -/

/-- The names that a module knows. -/
def RegisteredModule.names : List String :=
  ["name", "body"]

/-- The names that a bundle knows: its tag, and the fields of its variant. -/
def Output.names : Output → List String
  | structured _ => ["format", "prelude", "modules", "epilogue"]
  | text _ => ["format", "text"]

/-- The names that a report knows: its tag, and the field of its variant. -/
def Report.names : Report → List String
  | success _ => ["status", "bundle"]
  | failure _ => ["status", "diagnostic"]

/-- Two values of a member are related at one name, and the same elsewhere. -/
def SameBut (key : String) (related : Value → Value → Prop) (name : String) (v v' : Value) : Prop :=
  if name = key then related v v' else v = v'

/-- The items of two arrays are related one by one. A value that is no array stays. -/
def ItemsRelated (related : Value → Value → Prop) : Value → Value → Prop
  | .array vs, .array vs' => List.Forall₂ related vs vs'
  | v, v' => v = v'

/-- What may be added to an object that knows some names. -/
abbrev Additions := List String → String × Value → Prop

/-- A module is rearranged. -/
def RegisteredModule.Rearranges (added : Additions) : Value → Value → Prop :=
  Value.Rearranges (added names) fun _ ↦ Eq

/-- A bundle is rearranged, and each of its modules is. -/
def Output.Rearranges (added : Additions) (output : Output) : Value → Value → Prop :=
  Value.Rearranges (added output.names) <|
    match output with
    | structured _ => SameBut "modules" (ItemsRelated (RegisteredModule.Rearranges added))
    | text _ => fun _ ↦ Eq

/-- A report is rearranged, and so is its bundle. -/
def Report.Rearranges (added : Additions) (r : Report) : Value → Value → Prop :=
  Value.Rearranges (added r.names) <|
    match r with
    | success output => SameBut "bundle" (output.Rearranges added)
    | failure _ => fun _ ↦ Eq

section

variable {added : Additions} {v v' : Value}

theorem sameBut_self {key : String} {related : Value → Value → Prop} :
    SameBut key related key v v' ↔ related v v' := by
  rw [SameBut, if_pos rfl]

theorem sameBut_of_ne {key name : String} (h : name ≠ key) {related : Value → Value → Prop} :
    SameBut key related name v v' ↔ v = v' := by
  rw [SameBut, if_neg h]

theorem exists_of_itemsRelated {related : Value → Value → Prop} {vs : List Value}
    (h : ItemsRelated related (.array vs) v') :
    ∃ vs', v' = .array vs' ∧ List.Forall₂ related vs vs' := by
  cases v' with
  | array vs' => exact ⟨vs', rfl, h⟩
  | _ => simp [ItemsRelated] at h

/-! ### Objects without a repeated name -/

theorem RegisteredModule.ofJson?_of_rearranges {m : RegisteredModule}
    (hadded : ∀ names m, added names m → m.1 ∉ names) (h : Rearranges added v v')
    (hv : ofJson? v = some m) : ofJson? v' = some m := by
  obtain rfl | ⟨ms, ms', rfl, rfl⟩ := Value.Rearranges.eq_or_object h
  · exact hv
  · obtain ⟨hname, hbody⟩ := ofJson?_object_iff.1 hv
    obtain ⟨_, hname, rfl⟩ := exists_onlyMember? h (hadded _) (by simp [names]) hname
    obtain ⟨_, hbody, rfl⟩ := exists_onlyMember? h (hadded _) (by simp [names]) hbody
    exact ofJson?_object_iff.2 ⟨hname, hbody⟩

theorem mapM_ofJson?_of_rearranges {vs vs' : List Value} {modules : List RegisteredModule}
    (hadded : ∀ names m, added names m → m.1 ∉ names)
    (h : List.Forall₂ (RegisteredModule.Rearranges added) vs vs')
    (hvs : vs.mapM RegisteredModule.ofJson? = some modules) :
    vs'.mapM RegisteredModule.ofJson? = some modules := by
  induction h generalizing modules with
  | nil => exact hvs
  | cons hv _ ih =>
    simp only [List.mapM_cons, Option.pure_def, Option.bind_eq_bind, Option.bind_eq_some_iff]
      at hvs ⊢
    obtain ⟨m, hm, rest, hrest, heq⟩ := hvs
    exact ⟨m, RegisteredModule.ofJson?_of_rearranges hadded hv hm, rest, ih hrest, heq⟩

theorem Output.ofJson?_of_rearranges {output : Output} {byIndex : Bool}
    (hadded : ∀ names m, added names m → m.1 ∉ names) (h : output.Rearranges added v v')
    (hv : ofJson? byIndex v = some output) : ofJson? byIndex v' = some output := by
  obtain rfl | ⟨ms, ms', rfl, rfl⟩ := Value.Rearranges.eq_or_object h
  · exact hv
  obtain ⟨tag, htag, n, hn, hfields⟩ := ofJson?_object_iff.1 hv
  cases output with
  | structured d =>
    have hstays : ∀ name ∈ names (structured d), name ≠ "modules" → ∀ x,
        onlyMember? name ms = some x → onlyMember? name ms' = some x := by
      intro name hname hne x hx
      obtain ⟨x', hx', heq⟩ := exists_onlyMember? h (hadded _) hname hx
      rwa [(sameBut_of_ne hne).1 heq]
    refine ofJson?_object_iff.2 ⟨tag, hstays _ (by simp [names]) (by simp) _ htag, n, hn, ?_⟩
    cases n with
    | zero =>
      obtain ⟨hprelude, ⟨vs, hvs, hmodules⟩, hepilogue⟩ := hfields
      obtain ⟨w, hw, hrelated⟩ := exists_onlyMember? h (hadded _) (by simp [names]) hvs
      obtain ⟨vs', rfl, hvs'⟩ := exists_of_itemsRelated (sameBut_self.1 hrelated)
      exact ⟨hstays _ (by simp [names]) (by simp) _ hprelude,
        ⟨vs', hw, mapM_ofJson?_of_rearranges hadded hvs' hmodules⟩,
        hstays _ (by simp [names]) (by simp) _ hepilogue⟩
    | succ n => exact hfields.elim
  | text t =>
    have hstays : ∀ name ∈ names (text t), ∀ x,
        onlyMember? name ms = some x → onlyMember? name ms' = some x := by
      intro name hname x hx
      obtain ⟨_, hx', rfl⟩ := exists_onlyMember? h (hadded _) hname hx
      exact hx'
    refine ofJson?_object_iff.2 ⟨tag, hstays _ (by simp [names]) _ htag, n, hn, ?_⟩
    cases n with
    | zero => exact hfields.elim
    | succ n => exact hstays _ (by simp [names]) _ hfields

theorem Report.ofJson?_of_rearranges {r : Report}
    (hadded : ∀ names m, added names m → m.1 ∉ names) (h : r.Rearranges added v v')
    (hv : ofJson? v = some r) : ofJson? v' = some r := by
  obtain rfl | ⟨ms, ms', rfl, rfl⟩ := Value.Rearranges.eq_or_object h
  · exact hv
  obtain ⟨tag, htag, n, hn, hfields⟩ := ofJson?_object_iff.1 hv
  obtain ⟨tag', htag', heq⟩ := exists_onlyMember? h (hadded _) (by cases r <;> simp [names]) htag
  cases r with
  | success output =>
    obtain rfl := (sameBut_of_ne (by simp)).1 heq
    refine ofJson?_object_iff.2 ⟨tag, htag', n, hn, ?_⟩
    cases n with
    | zero =>
      obtain ⟨b, hb, houtput⟩ := hfields
      obtain ⟨b', hb', hrelated⟩ := exists_onlyMember? h (hadded _) (by simp [names]) hb
      exact ⟨b', hb', Output.ofJson?_of_rearranges hadded (sameBut_self.1 hrelated) houtput⟩
    | succ n => exact hfields.elim
  | failure diagnostic =>
    obtain rfl : tag = tag' := heq
    refine ofJson?_object_iff.2 ⟨tag, htag', n, hn, ?_⟩
    cases n with
    | zero => exact hfields.elim
    | succ n =>
      obtain ⟨_, hdiagnostic, rfl⟩ := exists_onlyMember? h (hadded _) (by simp [names]) hfields
      exact hdiagnostic

/-! ### Objects with a repeated name -/

/-- A module has a name twice that it knows. -/
def RegisteredModule.Repeats (v : Value) : Prop :=
  ∃ ms, v = .object ms ∧ Json.Repeats names ms

/-- A bundle has a name twice that it knows, or one of its modules does. -/
def Output.Repeats (output : Output) (v : Value) : Prop :=
  ∃ ms, v = .object ms ∧ (Json.Repeats output.names ms ∨
    match output with
    | structured _ => ∃ vs, ("modules", .array vs) ∈ ms ∧ ∃ v ∈ vs, RegisteredModule.Repeats v
    | text _ => False)

/-- A report has a name twice that it knows, or its bundle does. -/
def Report.Repeats (r : Report) (v : Value) : Prop :=
  ∃ ms, v = .object ms ∧ (Json.Repeats r.names ms ∨
    match r with
    | success output => ∃ b, ("bundle", b) ∈ ms ∧ output.Repeats b
    | failure _ => False)

theorem RegisteredModule.ofJson?_eq_none_of_repeats (h : Repeats v) : ofJson? v = none := by
  obtain ⟨ms, rfl, htwice⟩ := h
  refine Option.eq_none_iff_forall_ne_some.2 fun m hm ↦ not_repeats ?_ htwice
  obtain ⟨hname, hbody⟩ := ofJson?_object_iff.1 hm
  simp [names, hname, hbody]

/-- Modules that are read have no name twice. -/
theorem not_repeats_of_mapM {vs : List Value} {modules : List RegisteredModule}
    (hvs : vs.mapM RegisteredModule.ofJson? = some modules) :
    ∀ v ∈ vs, ¬RegisteredModule.Repeats v := by
  induction vs generalizing modules with
  | nil => simp
  | cons v vs ih =>
    simp only [List.mapM_cons, Option.bind_eq_bind, Option.bind_eq_some_iff] at hvs
    obtain ⟨m, hm, rest, hrest, -⟩ := hvs
    refine List.forall_mem_cons.2 ⟨fun h ↦ ?_, ih hrest⟩
    rw [RegisteredModule.ofJson?_eq_none_of_repeats h] at hm
    simp at hm

theorem Output.ofJson?_eq_none_of_repeats {output : Output} {byIndex : Bool}
    (h : output.Rearranges added v v') (hv : ofJson? byIndex v = some output)
    (hrepeats : output.Repeats v') : ofJson? byIndex v' = none := by
  obtain ⟨ms', rfl, hrepeats⟩ := hrepeats
  obtain ⟨ms, rfl⟩ := Value.Rearranges.exists_object h
  refine Option.eq_none_iff_forall_ne_some.2 fun output' hv' ↦ ?_
  obtain ⟨tag, htag, n, hn, hfields⟩ := ofJson?_object_iff.1 hv
  obtain ⟨tag', htag', n', hn', hfields'⟩ := ofJson?_object_iff.1 hv'
  have hsame := same_of_onlyMember? h htag htag'
  -- the tag stays, so a bundle of the same variant was read
  cases output with
  | structured d =>
    obtain rfl := (sameBut_of_ne (by simp)).1 hsame
    obtain rfl : n = n' := Option.some.inj (hn.symm.trans hn')
    cases n with
    | succ n => exact hfields
    | zero =>
      cases output' with
      | text t' => exact hfields'
      | structured d' =>
        obtain ⟨hprelude, ⟨vs, hvs, hmodules⟩, hepilogue⟩ := hfields'
        obtain htwice | ⟨vs', hvs', v, hv, hmodule⟩ := hrepeats
        · exact not_repeats (by simp [names, htag', hprelude, hvs, hepilogue]) htwice
        · obtain rfl := Value.array.inj (eq_of_onlyMember? hvs hvs')
          exact not_repeats_of_mapM hmodules v hv hmodule
  | text t =>
    obtain rfl : tag = tag' := hsame
    obtain rfl : n = n' := Option.some.inj (hn.symm.trans hn')
    cases n with
    | zero => exact hfields
    | succ n =>
      cases output' with
      | structured d' => exact hfields'
      | text t' =>
        exact not_repeats (by simp [names, htag', show onlyMember? "text" ms' = _ from hfields'])
          (hrepeats.resolve_right id)

theorem Report.ofJson?_eq_none_of_repeats {r : Report} (h : r.Rearranges added v v')
    (hv : ofJson? v = some r) (hrepeats : r.Repeats v') : ofJson? v' = none := by
  obtain ⟨ms', rfl, hrepeats⟩ := hrepeats
  obtain ⟨ms, rfl⟩ := Value.Rearranges.exists_object h
  refine Option.eq_none_iff_forall_ne_some.2 fun r' hv' ↦ ?_
  obtain ⟨tag, htag, n, hn, hfields⟩ := ofJson?_object_iff.1 hv
  obtain ⟨tag', htag', n', hn', hfields'⟩ := ofJson?_object_iff.1 hv'
  have hsame := same_of_onlyMember? h htag htag'
  cases r with
  | success output =>
    obtain rfl := (sameBut_of_ne (by simp)).1 hsame
    obtain rfl : n = n' := Option.some.inj (hn.symm.trans hn')
    cases n with
    | succ n => exact hfields
    | zero =>
      cases r' with
      | failure diagnostic' => exact hfields'
      | success output' =>
        obtain ⟨b, hb, houtput⟩ := hfields
        obtain ⟨b', hb', houtput'⟩ := hfields'
        obtain htwice | ⟨c, hc, hbundle⟩ := hrepeats
        · exact not_repeats (by simp [names, htag', hb']) htwice
        · obtain rfl := eq_of_onlyMember? hb' hc
          have hrelated := sameBut_self.1 (same_of_onlyMember? h hb hb')
          rw [Output.ofJson?_eq_none_of_repeats hrelated houtput hbundle] at houtput'
          simp at houtput'
  | failure diagnostic =>
    obtain rfl : tag = tag' := hsame
    obtain rfl : n = n' := Option.some.inj (hn.symm.trans hn')
    cases n with
    | zero => exact hfields
    | succ n =>
      cases r' with
      | success output' => exact hfields'
      | failure diagnostic' =>
        exact not_repeats
          (by simp [names, htag', show onlyMember? "diagnostic" ms' = _ from hfields'])
          (hrepeats.resolve_right id)

/-! ### Texts of reports -/

theorem RegisteredModule.isWritable_of_rearranges
    (hadded : ∀ names m, added names m → m.2.IsWritable) (h : Rearranges added v v')
    (hv : v.IsWritable) : v'.IsWritable :=
  Value.Rearranges.isWritable h (hadded _) (fun _ _ _ heq hx ↦ heq ▸ hx) hv

theorem Output.isWritable_of_rearranges {output : Output}
    (hadded : ∀ names m, added names m → m.2.IsWritable) (h : output.Rearranges added v v')
    (hv : v.IsWritable) : v'.IsWritable := by
  refine Value.Rearranges.isWritable h (hadded _) (fun name x x' hsame hx ↦ ?_) hv
  cases output with
  | text t => exact (show x = x' from hsame) ▸ hx
  | structured d =>
    by_cases hname : name = "modules"
    · subst hname
      have hrelated := sameBut_self.1 hsame
      unfold ItemsRelated at hrelated
      split at hrelated
      · rw [Value.isWritable_array] at hx ⊢
        intro m' hm'
        obtain ⟨m, hm, hmodule⟩ := exists_related_of_mem hrelated hm'
        exact RegisteredModule.isWritable_of_rearranges hadded hmodule (hx m hm)
      · exact hrelated ▸ hx
    · exact (sameBut_of_ne hname).1 hsame ▸ hx

theorem Report.isWritable_of_rearranges {r : Report}
    (hadded : ∀ names m, added names m → m.2.IsWritable) (h : r.Rearranges added v v')
    (hv : v.IsWritable) : v'.IsWritable := by
  refine Value.Rearranges.isWritable h (hadded _) (fun name x x' hsame hx ↦ ?_) hv
  cases r with
  | failure diagnostic => exact (show x = x' from hsame) ▸ hx
  | success output =>
    by_cases hname : name = "bundle"
    · subst hname
      exact Output.isWritable_of_rearranges hadded (sameBut_self.1 hsame) hx
    · exact (sameBut_of_ne hname).1 hsame ▸ hx

/-- What a report can be rearranged to has a text, if it is not nested too deep. -/
theorem Report.exists_read? {r : Report} {stdout : String}
    (hv : Json.read? (trimmed stdout) = some v)
    (hadded : ∀ names m, added names m → ∃ s, Json.read? s = some m.2)
    (h : r.Rearranges added v v') (hdepth : v'.depth ≤ maxDepth) :
    ∃ stdout', Json.read? (trimmed stdout') = some v' := by
  have hwritable : v'.IsWritable := by
    refine isWritable_of_rearranges (fun names m hm ↦ ?_) h (Value.isWritable_of_read? hv)
    obtain ⟨s, hs⟩ := hadded names m hm
    exact Value.isWritable_of_read? hs
  obtain rfl | ⟨_, ms', rfl, rfl⟩ := Value.Rearranges.eq_or_object h
  · exact ⟨stdout, hv⟩
  · obtain ⟨cs, hcs⟩ := Json.exists_read? hwritable hdepth
    have hnone : ∀ c ∈ ([] : List Char), isBlank c = true := by simp
    have htrim : trim ('\x7b' :: cs ++ ['\x7d']) = '\x7b' :: cs ++ ['\x7d'] := by
      simpa using trim_padded hnone hnone (by decide) (by decide)
    exact ⟨String.ofList ('\x7b' :: cs ++ ['\x7d']), by
      rw [trimmed, String.toList_ofList, htrim, hcs]⟩

end

/-- **Reports are read whatever the order of their members.** Say a report is read of a text. Put
the members of its object in any order, and those of its bundle and of its modules, and add others
of names that the object does not know, with values that can be read and not too deep: there is a
text for that, and of each such text the same report is read. Of a text in which a name comes twice
that the object knows no report is read, whatever was added and in whatever order. -/
theorem Report.read?_of_rearranges {stdout : String} {v : Value} {r : Report}
    (hv : Json.read? (trimmed stdout) = some v) (hr : read? stdout = some r) :
    (∀ v', r.Rearranges (fun names m ↦ m.1 ∉ names ∧ ∃ s, Json.read? s = some m.2) v v' →
      v'.depth ≤ maxDepth →
        (∃ stdout', Json.read? (trimmed stdout') = some v') ∧
        ∀ stdout', Json.read? (trimmed stdout') = some v' → read? stdout' = some r) ∧
    ∀ v', r.Rearranges (fun _ _ ↦ True) v v' → r.Repeats v' →
      ∀ stdout', Json.read? (trimmed stdout') = some v' → read? stdout' = none := by
  have hreport : ofJson? v = some r := by rwa [read?, hv] at hr
  refine ⟨fun v' h hdepth ↦ ⟨exists_read? hv (fun _ _ hm ↦ hm.2) h hdepth, ?_⟩, ?_⟩
  · intro stdout' hstdout'
    rw [read?, hstdout']
    exact ofJson?_of_rearranges (fun _ _ hm ↦ hm.1) h hreport
  · intro v' h hrepeats stdout' hstdout'
    rw [read?, hstdout']
    exact ofJson?_eq_none_of_repeats h hreport hrepeats

/-- A report that is written from its last member to its first, with a member more in its bundle, is
read as the report; with the prelude there twice it is not read. -/
theorem Report.read?_reversed :
    (∃ stdout, Json.read? (trimmed stdout) = some (.object [
        ("bundle", .object [
          ("map", .null), ("epilogue", .string "e"),
          ("modules", .array [.object [("body", .string "b"), ("name", .string "m")]]),
          ("prelude", .string "p"), ("format", .string "structured")]),
        ("status", .string "success")]) ∧
      read? stdout = some (.success (.structured ⟨"p", [⟨"m", "b"⟩], "e"⟩))) ∧
    ∀ stdout, Json.read? (trimmed stdout) = some (.object [
        ("bundle", .object [
          ("prelude", .string "q"), ("epilogue", .string "e"),
          ("modules", .array [.object [("body", .string "b"), ("name", .string "m")]]),
          ("prelude", .string "p"), ("format", .string "structured")]),
        ("status", .string "success")]) → read? stdout = none := by
  have hblanks : ∀ c ∈ "".toList, isBlank c = true := by simp
  have hjson := trimmed_padded hblanks hblanks (.success (.structured ⟨"p", [⟨"m", "b"⟩], "e"⟩)) ▸
    read?_render_toJson (.success (.structured ⟨"p", [⟨"m", "b"⟩], "e"⟩))
  have hread := read?_padded hblanks hblanks (.success (.structured ⟨"p", [⟨"m", "b"⟩], "e"⟩))
  obtain ⟨hsame, hnone⟩ := read?_of_rearranges hjson hread
  -- both reports differ from the one that was written by one member of the bundle
  have hreversed (added : Additions) (m : String × Value)
      (hm : added ["format", "prelude", "modules", "epilogue"] m) :
      (success (.structured ⟨"p", [⟨"m", "b"⟩], "e"⟩)).Rearranges added
        (success (.structured ⟨"p", [⟨"m", "b"⟩], "e"⟩)).toJson (.object [
          ("bundle", .object [
            m, ("epilogue", .string "e"),
            ("modules", .array [.object [("body", .string "b"), ("name", .string "m")]]),
            ("prelude", .string "p"), ("format", .string "structured")]),
          ("status", .string "success")]) := by
    have hstays {key name : String} (hne : name ≠ key) (related : Value → Value → Prop)
        (x : Value) : SameBut key related name x x := (sameBut_of_ne hne).2 rfl
    have hmodule : RegisteredModule.Rearranges added (RegisteredModule.toJson ⟨"m", "b"⟩)
        (.object [("body", .string "b"), ("name", .string "m")]) :=
      Value.rearranges_reverse [("name", .string "m"), ("body", .string "b")] []
        (.cons ⟨rfl, rfl⟩ (.cons ⟨rfl, rfl⟩ .nil)) (by simp)
    have hbundle : (Output.structured ⟨"p", [⟨"m", "b"⟩], "e"⟩).Rearranges added
        (Output.structured ⟨"p", [⟨"m", "b"⟩], "e"⟩).toJson (.object [
          m, ("epilogue", .string "e"),
          ("modules", .array [.object [("body", .string "b"), ("name", .string "m")]]),
          ("prelude", .string "p"), ("format", .string "structured")]) :=
      Value.rearranges_reverse [("format", .string "structured"), ("prelude", .string "p"),
          ("modules", .array [.object [("body", .string "b"), ("name", .string "m")]]),
          ("epilogue", .string "e")] [m]
        (.cons ⟨rfl, hstays (by simp) _ _⟩ <| .cons ⟨rfl, hstays (by simp) _ _⟩ <|
          .cons ⟨rfl, sameBut_self.2 (.cons hmodule .nil)⟩ <|
          .cons ⟨rfl, hstays (by simp) _ _⟩ .nil) (List.forall_mem_singleton.2 hm)
    exact Value.rearranges_reverse [("status", .string "success"), ("bundle", _)] []
      (.cons ⟨rfl, hstays (by simp) _ _⟩ <| .cons ⟨rfl, sameBut_self.2 hbundle⟩ .nil) (by simp)
  obtain ⟨⟨stdout, hstdout⟩, hall⟩ := hsame _ (hreversed _ ("map", .null)
    ⟨by simp, _, read?_render (by simp [Value.tokens]) (by decide)⟩) (by decide)
  refine ⟨⟨stdout, hstdout, hall _ hstdout⟩,
    hnone _ (hreversed _ ("prelude", .string "q") trivial) ⟨_, rfl, .inr ⟨_, .head _, _, rfl, ?_⟩⟩⟩
  exact .inl ⟨"prelude", by simp [Output.names], by decide⟩

end Bundle

end LuaBundler

import LuaBundler.Proofs.Source.Masking
import LuaBundler.Source.Require

/-!
# Which calls a search finds

Calls are looked for from left to right, and the search goes on behind each call it finds. So a call
that could be read at a place is found there, unless the search runs over the place: a call found
earlier takes it in (`mem_sites_iff`).

Every site is a call at a place of the text (`exists_of_mem_sites`), and its line and column say
which place it is (`eq_of_line_column`).
-/

namespace LuaBundler.Source

open Text

/-- The site of a call after some text. -/
def siteAt (done : List Char) (argument : Argument) : CallSite :=
  ⟨done.getLast?, Position.start.pass done, argument⟩

/-- A call found earlier takes in the place after some text: the search goes on behind it. -/
def Overrun (text before : List Char) : Prop :=
  ∃ done rest argument size, text = done ++ rest ∧ siteAt done argument ∈ sites text ∧
    callAfter? done.getLast? rest = some (argument, size) ∧
    done.length < before.length ∧ before.length < done.length + size

/-- The sites of the rest of a text. -/
def sitesBehind (done rest : List Char) : List CallSite :=
  sitesFrom done.getLast? (Position.start.pass done) rest

theorem sites_eq (text : List Char) : sites text = sitesBehind [] text := rfl

variable {text done before next rest tail other : List Char} {a b : Argument} {size : Nat}
  {site : CallSite}

/-! ### The steps of the search -/

theorem callAfter?_nil (c : Option Char) : callAfter? c [] = none := by
  simp [callAfter?, call?, keyword]

theorem ne_nil_of_callAfter? {c : Option Char} (h : callAfter? c rest = some (a, size)) :
    rest ≠ [] := by
  rintro rfl
  simp [callAfter?_nil] at h

theorem sitesBehind_of_call (h : callAfter? done.getLast? rest = some (a, size)) :
    sitesBehind done rest =
      siteAt done a :: sitesBehind (done ++ rest.take size) (rest.drop size) := by
  have hne := ne_nil_of_callAfter? h
  have hlast : (done ++ rest.take size).getLast? = (rest.take size).getLast? := by
    rw [List.getLast?_append_of_ne_nil]
    simp [hne, Nat.ne_of_gt (pos_of_callAfter? h)]
  obtain ⟨c, rest, rfl⟩ := List.exists_cons_of_ne_nil hne
  rw [sitesBehind, sitesFrom]
  split
  · rename_i b width heq
    obtain ⟨rfl, rfl⟩ : a = b ∧ size = width := by simpa [h] using heq
    rw [sitesBehind, hlast, Position.pass_append]
    rfl
  · rename_i heq
    simp [h] at heq

theorem sitesBehind_of_none {c : Char} (h : callAfter? done.getLast? (c :: rest) = none) :
    sitesBehind done (c :: rest) = sitesBehind (done ++ [c]) rest := by
  rw [sitesBehind, sitesFrom]
  split
  · rename_i heq
    simp [h] at heq
  · rw [sitesBehind, List.getLast?_concat, Position.pass_append, Position.pass_cons,
      Position.pass_nil]

/-- Induction over the steps of a search: at each place it takes in a call or one character. -/
theorem search_induction {P : List Char → List Char → Prop} (nil : ∀ done, P done [])
    (call : ∀ done rest a size, callAfter? done.getLast? rest = some (a, size) →
      P (done ++ rest.take size) (rest.drop size) → P done rest)
    (skip : ∀ done c rest, callAfter? done.getLast? (c :: rest) = none →
      P (done ++ [c]) rest → P done (c :: rest)) (done rest : List Char) : P done rest := by
  induction hlen : rest.length using Nat.strongRecOn generalizing done rest with
  | ind n ih =>
  subst hlen
  cases rest with
  | nil => exact nil done
  | cons c rest =>
    cases hcall : callAfter? done.getLast? (c :: rest) with
    | none => exact skip done c rest hcall (ih rest.length (Nat.lt_succ_self _) _ _ rfl)
    | some found =>
      have hpos := pos_of_callAfter? hcall
      refine call done _ found.1 found.2 hcall (ih _ ?_ _ _ rfl)
      simp only [List.length_drop, List.length_cons]
      omega

/-- Behind a call the rest of a text is shorter by the word `require` at least. -/
theorem length_drop_of_callAfter? {c : Option Char} (h : callAfter? c rest = some (a, size)) :
    keyword.length + (rest.drop size).length ≤ rest.length := by
  unfold callAfter? at h
  split at h
  · obtain ⟨tail, width, rfl, -, rfl⟩ := eq_of_call? h
    simp only [List.length_drop, List.length_append]
    omega
  · simp at h

/-- As each call takes the word `require`, a text has no more sites than there is room for it. -/
theorem length_sitesBehind_le (done rest : List Char) :
    keyword.length * (sitesBehind done rest).length ≤ rest.length := by
  induction done, rest using search_induction with
  | nil done => simp [sitesBehind, sitesFrom]
  | call done rest a size hcall ih =>
    have hdrop := length_drop_of_callAfter? hcall
    rw [sitesBehind_of_call hcall, List.length_cons, Nat.mul_succ]
    omega
  | skip done c rest hcall ih =>
    rw [sitesBehind_of_none hcall, List.length_cons]
    omega

/-! ### Where sites are -/

/-- Every site of the rest of a text is a call at a place there. -/
theorem exists_of_mem_sitesBehind (h : site ∈ sitesBehind done rest) :
    ∃ before tail size, done ++ rest = before ++ tail ∧ done <+: before ∧
      site = siteAt before site.argument ∧
      callAfter? before.getLast? tail = some (site.argument, size) := by
  induction done, rest using search_induction with
  | nil done => simp [sitesBehind, sitesFrom] at h
  | call done rest a size hcall ih =>
    rw [sitesBehind_of_call hcall] at h
    rcases List.mem_cons.1 h with rfl | h
    · exact ⟨done, rest, size, rfl, List.prefix_rfl, rfl, hcall⟩
    · obtain ⟨before, tail, size', hsplit, hle, hrest⟩ := ih h
      rw [List.append_assoc, List.take_append_drop] at hsplit
      exact ⟨before, tail, size', hsplit, (List.prefix_append ..).trans hle, hrest⟩
  | skip done c rest hcall ih =>
    rw [sitesBehind_of_none hcall] at h
    obtain ⟨before, tail, size', hsplit, hle, hrest⟩ := ih h
    rw [List.append_assoc, List.singleton_append] at hsplit
    exact ⟨before, tail, size', hsplit, (List.prefix_append ..).trans hle, hrest⟩

/-- Every site of a text is a call at a place of it. -/
theorem exists_of_mem_sites (h : site ∈ sites text) :
    ∃ done rest size, text = done ++ rest ∧ site = siteAt done site.argument ∧
      callAfter? done.getLast? rest = some (site.argument, size) := by
  rw [sites_eq] at h
  obtain ⟨done, rest, size, hsplit, -, hsite⟩ := exists_of_mem_sitesBehind h
  exact ⟨done, rest, size, hsplit, hsite⟩

/-- A line and a column belong to one place of a text. -/
theorem eq_of_line_column (h : done ++ rest = before ++ tail)
    (hline : (Position.start.pass done).line = (Position.start.pass before).line)
    (hcolumn : (Position.start.pass done).column = (Position.start.pass before).column) :
    done = before := by
  -- of two places, the one further on is on a later line or further right
  have key : ∀ xs zs : List Char,
      (Position.start.pass (xs ++ zs)).line = (Position.start.pass xs).line →
      (Position.start.pass (xs ++ zs)).column = (Position.start.pass xs).column → zs = [] := by
    intro xs zs hline hcolumn
    by_contra hne
    rw [Position.pass_append] at hline hcolumn
    rcases (Position.start.pass xs).lt_pass hne with hlater | ⟨-, hright⟩ <;> omega
  rcases List.append_eq_append_iff.1 h with ⟨zs, rfl, -⟩ | ⟨zs, rfl, -⟩
  · rw [key done zs hline.symm hcolumn.symm, List.append_nil]
  · rw [key before zs hline hcolumn, List.append_nil]

theorem eq_of_siteAt_eq (h : done ++ rest = before ++ tail) (hsite : siteAt done a = siteAt before b) :
    done = before := by
  have hposition : Position.start.pass done = Position.start.pass before :=
    congrArg CallSite.position hsite
  exact eq_of_line_column h (by rw [hposition]) (by rw [hposition])

/-- The sites of the rest of a text stand at places there. -/
theorem prefix_of_mem_sitesBehind (h : before ++ tail = done ++ rest)
    (hmem : siteAt before a ∈ sitesBehind done rest) : done <+: before := by
  obtain ⟨place, left, _, hsplit, hle, hsite, -⟩ := exists_of_mem_sitesBehind hmem
  rwa [eq_of_siteAt_eq (h.trans hsplit) hsite]

/-! ### What the search finds -/

/-- **Calls that are found do not overlap.** Of two of them, the later one stands behind what the
earlier one takes. -/
theorem prefix_of_mem_sitesBehind_of_lt (hbefore : before ++ tail = done ++ rest)
    (hnext : next ++ other = done ++ rest) (hmem : siteAt before a ∈ sitesBehind done rest)
    (hmem' : siteAt next b ∈ sitesBehind done rest)
    (hcall : callAfter? before.getLast? tail = some (a, size))
    (hlt : before.length < next.length) : before ++ tail.take size <+: next := by
  induction done, rest using search_induction with
  | nil done => simp [sitesBehind, sitesFrom] at hmem
  | call done rest c width hfirst ih =>
    have hsplit : done ++ rest = done ++ rest.take width ++ rest.drop width := by
      rw [List.append_assoc, List.take_append_drop]
    rw [sitesBehind_of_call hfirst, List.mem_cons] at hmem hmem'
    rcases hmem with hmem | hmem
    · -- the earlier one is found at once, and the later one behind it
      obtain rfl := eq_of_siteAt_eq hbefore hmem
      obtain rfl := List.append_cancel_left hbefore
      obtain rfl : size = width := (Prod.mk.inj (Option.some.inj (hcall.symm.trans hfirst))).2
      rcases hmem' with hmem' | hmem'
      · rw [eq_of_siteAt_eq hnext hmem'] at hlt
        exact absurd hlt (Nat.lt_irrefl _)
      · exact prefix_of_mem_sitesBehind (hnext.trans hsplit) hmem'
    · rcases hmem' with hmem' | hmem'
      · have hle := (prefix_of_mem_sitesBehind (hbefore.trans hsplit) hmem).length_le
        rw [eq_of_siteAt_eq hnext hmem', ← Nat.not_le] at hlt
        exact absurd (Nat.le_trans (List.prefix_append ..).length_le hle) hlt
      · exact ih (hbefore.trans hsplit) (hnext.trans hsplit) hmem hmem'
  | skip done c rest hfirst ih =>
    rw [sitesBehind_of_none hfirst] at hmem hmem'
    have hsplit : done ++ c :: rest = done ++ [c] ++ rest := by
      rw [List.append_assoc, List.singleton_append]
    exact ih (hbefore.trans hsplit) (hnext.trans hsplit) hmem hmem'

/-- **A call that is not found is taken in** by one that is found before it. -/
theorem exists_of_not_mem_sitesBehind (hbefore : before ++ tail = done ++ rest)
    (hdone : done <+: before) (hcall : callAfter? before.getLast? tail = some (a, size))
    (hmem : siteAt before a ∉ sitesBehind done rest) :
    ∃ first left b size', done ++ rest = first ++ left ∧ siteAt first b ∈ sitesBehind done rest ∧
      callAfter? first.getLast? left = some (b, size') ∧
      first.length < before.length ∧ before.length < first.length + size' := by
  induction done, rest using search_induction with
  | nil done =>
    obtain ⟨left, rfl⟩ := hdone
    rw [List.append_assoc, List.append_cancel_left_eq, List.append_eq_nil_iff] at hbefore
    exact absurd hbefore.2 (ne_nil_of_callAfter? hcall)
  | call done rest b width hfirst ih =>
    have hsplit : done ++ rest = done ++ rest.take width ++ rest.drop width := by
      rw [List.append_assoc, List.take_append_drop]
    rw [sitesBehind_of_call hfirst] at hmem ⊢
    rw [List.mem_cons, not_or] at hmem
    obtain ⟨passed, rfl⟩ := hdone
    rw [List.append_assoc, List.append_cancel_left_eq] at hbefore
    subst hbefore
    by_cases hwidth : width ≤ passed.length
    · -- the call found first ends before the place
      have htaken : done ++ (passed ++ tail).take width <+: done ++ passed := by
        rw [List.take_append_of_le_length hwidth]
        exact (List.prefix_append_right_inj _).2 (List.take_prefix ..)
      obtain ⟨first, left, c, size', hleft, hfound, hrest⟩ :=
        ih (by rw [← hsplit, List.append_assoc]) htaken hmem.2
      exact ⟨first, left, c, size', hsplit.trans hleft, List.mem_cons_of_mem _ hfound, hrest⟩
    · refine ⟨done, passed ++ tail, b, width, rfl, List.mem_cons_self .., hfirst, ?_, ?_⟩
      · have hne : passed ≠ [] := by
          rintro rfl
          rw [List.append_nil] at hcall hmem
          obtain rfl : a = b := (Prod.mk.inj (Option.some.inj (hcall.symm.trans hfirst))).1
          exact hmem.1 rfl
        have := List.length_pos_iff.2 hne
        simp only [List.length_append]
        omega
      · simp only [List.length_append]
        omega
  | skip done c rest hfirst ih =>
    have hsplit : done ++ c :: rest = done ++ [c] ++ rest := by
      rw [List.append_assoc, List.singleton_append]
    rw [sitesBehind_of_none hfirst] at hmem ⊢
    obtain ⟨passed, rfl⟩ := hdone
    have hpassed : done ++ [c] <+: done ++ passed := by
      cases passed with
      | nil =>
        rw [List.append_nil] at hcall hbefore
        rw [List.append_cancel_left hbefore, hfirst] at hcall
        simp at hcall
      | cons d passed =>
        rw [List.append_assoc, List.append_cancel_left_eq, List.cons_append] at hbefore
        rw [(List.cons.inj hbefore).1]
        exact ⟨passed, by simp⟩
    rw [hsplit]
    exact ih (hbefore.trans hsplit) hpassed hmem

/-- **A call is found at its place unless the search runs over it.** -/
theorem mem_sites_iff (h : text = before ++ tail)
    (hcall : callAfter? before.getLast? tail = some (a, size)) :
    siteAt before a ∈ sites text ↔ ¬ Overrun text before := by
  have hbefore : before ++ tail = [] ++ text := h.symm
  constructor
  · rintro hmem ⟨first, left, b, width, hsplit, hfound, hfirst, hlt, hwidth⟩
    have hnext : first ++ left = [] ++ text := hsplit.symm
    have hprefix := prefix_of_mem_sitesBehind_of_lt hnext hbefore hfound hmem hfirst hlt
    -- so the call found first takes all of the text, and nothing is left for this one
    have hle := hprefix.length_le
    have hall := congrArg List.length (hsplit.symm.trans h)
    have htail := List.length_pos_iff.2 (ne_nil_of_callAfter? hcall)
    simp only [List.length_append, List.length_take] at hle hall
    omega
  · intro hover
    by_contra hmem
    exact hover (exists_of_not_mem_sitesBehind hbefore List.nil_prefix hcall hmem)

end LuaBundler.Source

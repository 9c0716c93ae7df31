import LuaBundler.Bundle.Report
import LuaBundler.Proofs.Json.RoundTrip
import LuaBundler.Proofs.Outcome
import LuaBundler.Proofs.Text.Utf8
import LuaBundler.Worker.Outcome

/-!
# The protocol of workers

What a worker writes for a report is read as that report (`Report.read?_padded`), whatever texts are
in it and whatever blanks are around it, and so is what arrives of it as bytes. A report that is
written with its own exit status counts as what it says (`interpret_padded`).

What a worker means by a report is what it is taken to have done, and nothing else is taken for a
success (`interpret_report`). The first half rests on reports being read back from their bytes; the
second on `interpret` alone, which looks at how the worker ended before it looks at what it wrote, so
that neither what a worker writes nor what is left of its output when it is stopped can pass for the
success of a worker that ended well.
-/

namespace LuaBundler

open Text Json LuaBundler.Bundle

/-! ### Text without blanks at its ends -/

theorem Text.dropBlanks_append {blanks : List Char} (h : ∀ c ∈ blanks, isBlank c = true)
    (cs : List Char) : dropBlanks (blanks ++ cs) = dropBlanks cs := by
  rw [dropBlanks, List.dropWhile_append_of_pos h, ← dropBlanks]

/-- Blanks around a text that neither starts nor ends with one are trimmed. -/
theorem Text.trim_padded {before after cs : List Char} {c d : Char}
    (hbefore : ∀ b ∈ before, isBlank b = true) (hafter : ∀ b ∈ after, isBlank b = true)
    (hc : isBlank c = false) (hd : isBlank d = false) :
    trim (before ++ (c :: cs ++ [d]) ++ after) = c :: cs ++ [d] := by
  have hback : ∀ b ∈ after.reverse, isBlank b = true := by simpa using hafter
  rw [trim, List.append_assoc, dropBlanks_append hbefore, List.cons_append, List.cons_append,
    dropBlanks_eq_self hc, trimEnd]
  simp only [List.reverse_cons, List.reverse_append, List.reverse_nil, List.nil_append,
    List.append_assoc, dropBlanks_append hback, List.cons_append, dropBlanks_eq_self hd]
  simp

namespace Bundle

/-! ### Modules and bundles -/

theorem RegisteredModule.ofJson?_toJson (m : RegisteredModule) : ofJson? m.toJson = some m := by
  simp [ofJson?, toJson, Value.payload?, Payload.fields?, onlyMember?, Value.string?]

theorem mapM_ofJson?_toJson (modules : List RegisteredModule) :
    modules.mapM (RegisteredModule.ofJson? ∘ RegisteredModule.toJson) = some modules := by
  induction modules with
  | nil => rfl
  | cons m modules ih => simp [ih, RegisteredModule.ofJson?_toJson]

theorem Output.ofJson?_toJson (output : Output) (byIndex : Bool) :
    Output.ofJson? byIndex output.toJson = some output := by
  cases output with
  | structured d =>
    simp [Output.ofJson?, Output.toJson, Value.tagged?, onlyMember?, Value.variant?,
      Document.ofPayload?, Payload.fields?, Value.string?, Value.items?, mapM_ofJson?_toJson,
      List.findIdx?_cons]
  | text t =>
    simp [Output.ofJson?, Output.toJson, Value.tagged?, onlyMember?, Value.variant?,
      Payload.fields?, Value.string?, List.findIdx?_cons]

/-- A bundle as a JSON value has no number, and is nested two containers deep below its own. -/
theorem Output.depth_toJson (output : Output) : output.toJson.depth ≤ 3 := by
  cases output with
  | structured d =>
    have hmodules : itemsDepth (d.modules.map RegisteredModule.toJson) ≤ 1 := by
      induction d.modules with
      | nil => simp [itemsDepth]
      | cons m modules ih =>
        simp only [List.map_cons, itemsDepth, RegisteredModule.toJson, Value.depth, membersDepth]
        exact Nat.max_le.2 ⟨by simp, ih⟩
    simp only [Output.toJson, Value.depth, membersDepth]
    omega
  | text t => simp [Output.toJson, Value.depth, membersDepth]

theorem Output.number_not_mem (output : Output) (n : Number) :
    Token.number n ∉ output.toJson.tokens := by
  cases output with
  | structured d =>
    have hmodules : Token.number n ∉ separated (itemTokens (d.modules.map RegisteredModule.toJson)) := by
      induction d.modules with
      | nil => simp [itemTokens, separated]
      | cons m modules ih =>
        cases modules with
        | nil => simp [itemTokens, separated, RegisteredModule.toJson, Value.tokens, memberTokens]
        | cons m' modules =>
          simp only [List.map_cons, itemTokens, separated] at ih ⊢
          simpa [RegisteredModule.toJson, Value.tokens, memberTokens, separated] using ih
    simp [Output.toJson, Value.tokens, memberTokens, separated, hmodules]
  | text t => simp [Output.toJson, Value.tokens, memberTokens, separated]

namespace Report

theorem ofJson?_toJson (r : Report) : ofJson? r.toJson = some r := by
  cases r with
  | success output =>
    simp [ofJson?, toJson, Value.tagged?, onlyMember?, Value.variant?, Payload.fields?,
      Output.ofJson?_toJson, List.findIdx?_cons]
  | failure diagnostic =>
    simp [ofJson?, toJson, Value.tagged?, onlyMember?, Value.variant?, Payload.fields?,
      Value.string?, List.findIdx?_cons]

/-- The text of a report, without its line feed, is read as its JSON value. -/
theorem read?_render_toJson (r : Report) : Json.read? r.toJson.render = some r.toJson := by
  refine read?_render ?_ ?_
  · intro n
    cases r with
    | success output =>
      simp [toJson, Value.tokens, memberTokens, separated, output.number_not_mem n]
    | failure diagnostic => simp [toJson, Value.tokens, memberTokens, separated]
  · cases r with
    | success output =>
      have := output.depth_toJson
      simp only [toJson, Value.depth, membersDepth, maxDepth]
      omega
    | failure diagnostic => simp [toJson, Value.depth, membersDepth, maxDepth]

/-- The text is an object, so no blank stands at its ends, and the line feed is one of those after
it. -/
theorem trimmed_padded {before after : String} (hbefore : ∀ c ∈ before.toList, isBlank c = true)
    (hafter : ∀ c ∈ after.toList, isBlank c = true) (r : Report) :
    trimmed (before ++ r.wire ++ after) = r.toJson.render := by
  obtain ⟨members, hobject⟩ : ∃ members, r.toJson = .object members := by
    cases r <;> exact ⟨_, rfl⟩
  have hrender : r.toJson.render.toList = '\x7b' ::
      (separated (memberTokens members)).flatMap Token.render ++ ['\x7d'] := by
    simp [hobject, Value.render, Value.tokens, Token.render]
  have hline : ∀ c ∈ '\n' :: after.toList, isBlank c = true :=
    List.forall_mem_cons.2 ⟨by decide, hafter⟩
  have htext : (before ++ r.wire ++ after).toList =
      before.toList ++ r.toJson.render.toList ++ '\n' :: after.toList := by
    simp [wire]
  rw [trimmed, htext, hrender, trim_padded hbefore hline (by decide) (by decide), ← hrender,
    String.ofList_toList]

/-- **What is written for a report is read as the report**, whatever blanks are put around it. -/
theorem read?_padded {before after : String} (hbefore : ∀ c ∈ before.toList, isBlank c = true)
    (hafter : ∀ c ∈ after.toList, isBlank c = true) (r : Report) :
    read? (before ++ r.wire ++ after) = some r := by
  rw [read?, trimmed_padded hbefore hafter, read?_render_toJson, Option.bind_some, ofJson?_toJson]

end Report

end Bundle

namespace Worker

open Process

/-- What a worker is taken to have done if its report arrives. -/
def outcomeOf : Report → Outcome
  | .success output => .success output
  | .failure diagnostic => .failed diagnostic

@[simp] theorem outcomeOf_success (output : Output) :
    outcomeOf (.success output) = .success output := rfl

@[simp] theorem outcomeOf_failure (diagnostic : String) :
    outcomeOf (.failure diagnostic) = .failed diagnostic := rfl

/-- **A report that arrives with its own exit status counts as what it says**, whatever blanks are
around it. -/
theorem interpret_padded {before after : String} (hbefore : ∀ c ∈ before.toList, isBlank c = true)
    (hafter : ∀ c ∈ after.toList, isBlank c = true) (limit : Duration) (r : Report)
    (stderr : Bytes) :
    interpret limit (.exited (.code r.exitCode)) (encodeString (before ++ r.wire ++ after)) stderr =
      outcomeOf r := by
  simp only [interpret, lossyString_encodeString, interpretExit, Report.read?_padded hbefore hafter]
  cases r <;> rfl

theorem interpret_wire (limit : Duration) (r : Report) (stderr : Bytes) :
    interpret limit (.exited (.code r.exitCode)) (encodeString r.wire) stderr = outcomeOf r := by
  have hnone : ∀ c ∈ "".toList, isBlank c = true := by simp
  simpa using interpret_padded hnone hnone limit r stderr

/-! ### What counts as a success -/

/-- A worker that ended by itself has succeeded if its exit status and its report say so. -/
theorem interpretExit_eq_success_iff {status : ExitStatus} {stdout stderr : String}
    {output : Output} :
    interpretExit status stdout stderr = .success output ↔
      status = .code 0 ∧ Report.read? stdout = some (.success output) := by
  rw [← ExitStatus.isSuccess_iff, interpretExit]
  split
  · rename_i other hread
    cases hstatus : status.isSuccess <;> simp [hread]
  · rename_i diagnostic hread
    simp [hread]
  · rename_i hread
    split
    · simp [hread]
    · split <;> simp [hread]

/-- **A success is a success report and the exit status 0**, of a worker that ended by itself. -/
theorem interpret_eq_success_iff {limit : Duration} {exit : Exit} {stdout stderr : Bytes}
    {output : Output} :
    interpret limit exit stdout stderr = .success output ↔
      exit = .exited (.code 0) ∧ Report.read? (lossyString stdout) = some (.success output) := by
  cases exit with
  | exited status => rw [interpret, interpretExit_eq_success_iff, Exit.exited.injEq]
  | waitFailed cause => simp [interpret]
  | timedOut => simp [interpret]

/-- **Reports get through as they are, and nothing else passes for one.** The bytes that are written
for a report, with any blanks around them, are read as the report, and with its exit status they
count as what it says. A success, in turn, needs a success report with that bundle and the exit
status 0, and a worker that took too long has timed out, whatever it wrote. -/
theorem interpret_report {before after : String} (hbefore : ∀ c ∈ before.toList, isBlank c = true)
    (hafter : ∀ c ∈ after.toList, isBlank c = true) (r : Report) :
    ((string? (encodeString (before ++ r.wire ++ after))).bind Report.read? = some r ∧
      ∀ limit stderr, interpret limit (.exited (.code r.exitCode))
        (encodeString (before ++ r.wire ++ after)) stderr = outcomeOf r) ∧
    (∀ limit exit stdout stderr output, interpret limit exit stdout stderr = .success output ↔
      exit = .exited (.code 0) ∧ Report.read? (lossyString stdout) = some (.success output)) ∧
    ∀ limit stdout stderr,
      interpret limit .timedOut stdout stderr = .timedOut limit (lossyString stderr) := by
  refine ⟨⟨?_, fun limit stderr ↦ interpret_padded hbefore hafter limit r stderr⟩,
    fun _ _ _ _ _ ↦ interpret_eq_success_iff, fun _ _ _ ↦ rfl⟩
  rw [string?_encodeString, Option.bind_some, Report.read?_padded hbefore hafter]

/-- A bundle that looks like a report of failure, with quotes, control characters and a character of
four bytes in it, gets through as it is. -/
theorem interpret_report_of_lookalike :
    (∀ c ∈ " \t\u2003".toList, isBlank c = true) ∧ (∀ c ∈ "\r\n".toList, isBlank c = true) ∧
      interpret ⟨0⟩ (.exited (.code 0)) (encodeString (" \t\u2003" ++
        (Report.success (.text "\x7b\"status\":\"failure\"\x7d\x00\\u0041\n𝔸")).wire ++ "\r\n")) [] =
        .success (.text "\x7b\"status\":\"failure\"\x7d\x00\\u0041\n𝔸") :=
  have hbefore : ∀ c ∈ " \t\u2003".toList, isBlank c = true := List.all_eq_true.1 (by decide)
  have hafter : ∀ c ∈ "\r\n".toList, isBlank c = true := List.all_eq_true.1 (by decide)
  ⟨hbefore, hafter, (interpret_report hbefore hafter
    (.success (.text "\x7b\"status\":\"failure\"\x7d\x00\\u0041\n𝔸"))).1.2 ⟨0⟩ []⟩

end Worker

end LuaBundler

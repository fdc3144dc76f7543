/-
  What the text of a run says of its instances.

  The text has a line that every instance is in sync if it lists no change.
  Nothing is listed of an instance whose objects could not be fetched either, so
  the line does not say that the run was a success.

  * `Report.saysInSync_iff`: which reports have the line.
  * `Run.in_sync_said_iff`: what it says of a run.
-/
import Concord.Proofs.Decimal.Texts
import Concord.Proofs.Run.Containment
import Concord.Proofs.Table
import Concord.Report

namespace Concord

/-! ## Reports -/

namespace Report

open Text

variable {line : List Char} {s t : String} {colours : Bool} {r : RunReport}

theorem unbroken_paint (colour : Colour) (h : Unbroken s) : Unbroken (colour.paint colours s) := by
  cases colours with
  | false => exact h
  | true =>
    have hcode : Unbroken colour.code := by cases colour <;> decide
    simp only [Colour.paint, if_true, unbroken_append]
    exact ⟨⟨⟨⟨by decide, hcode⟩, by decide⟩, h⟩, by decide⟩

theorem unbroken_toString (n : Nat) : Unbroken (toString n) := by
  intro hmem
  have hdigits : '\n' ∈ Nat.toDigits 10 n := by
    have hlist : (toString n).toList = Nat.toDigits 10 n := String.toList_ofList
    rwa [hlist] at hmem
  have hdigit : '\n'.isDigit = true := Decimal.isDigit_of_mem_toDigits hdigits
  cases hdigit

/-- The line that says that there is nothing to do, without its break. -/
def inSyncText (colours : Bool) : String :=
  Colour.green.paint colours "✓" ++ " No changes required, every instance is in sync."

/-- The characters of that line. -/
def inSyncWords (colours : Bool) : List Char := (inSyncText colours).toList

/-- A report has the line that says that there is nothing to do. -/
def SaysInSync (colours : Bool) (r : RunReport) : Prop :=
  inSyncWords colours ∈ linesOf (runText colours r)

/-- The words of a failure, or the names of the instances on which something
    failed, have that line in them. -/
def Quotes (colours : Bool) (r : RunReport) : Prop :=
  (∃ k ∈ r.kinds, ∃ o ∈ k.outcomes, inSyncWords colours ∈ linesOf (failureLine colours k.kind o)) ∨
    inSyncWords colours ∈ linesOf (invalidLine colours r)

/-- The line begins with a tick, which may be painted. -/
theorem head?_inSyncWords (colours : Bool) :
    (inSyncWords colours).head? = some (if colours then '\x1b' else '✓') := by
  cases colours <;> rfl

theorem inSyncWords_ne_nil (colours : Bool) : inSyncWords colours ≠ [] := by
  intro h
  have hhead := head?_inSyncWords colours
  rw [h] at hhead
  cases hhead

/-- A line that begins with neither the tick nor its paint is another one. -/
theorem inSyncWords_ne {ch : Char} (h : line.head? = some ch) (hpaint : ch ≠ '\x1b')
    (htick : ch ≠ '✓') : inSyncWords colours ≠ line := by
  rintro rfl
  rw [head?_inSyncWords, Option.some_inj] at h
  cases colours with
  | false => exact htick h.symm
  | true => exact hpaint h.symm

theorem inSyncLine_eq (colours : Bool) : inSyncLine colours = inSyncText colours ++ "\n" := by
  rw [inSyncLine, inSyncText, String.append_assoc]
  rfl

theorem whole_inSyncLine (colours : Bool) : Whole (inSyncLine colours) :=
  .inr ⟨_, inSyncLine_eq colours⟩

theorem linesOf_inSyncLine (colours : Bool) :
    linesOf (inSyncLine colours) = [inSyncWords colours, []] := by
  have hunbroken : Unbroken (inSyncText colours) :=
    unbroken_append.2 ⟨unbroken_paint .green (by decide), by decide⟩
  have hlines := linesOf_newline (inSyncText colours) ""
  rw [String.append_empty, linesOf_of_unbroken hunbroken] at hlines
  rw [inSyncLine_eq, hlines]
  rfl

theorem whole_failureLine (kind : String) (o : Outcome) :
    Whole (failureLine colours kind o) := by
  unfold failureLine
  cases o.error with
  | none => exact whole_empty
  | some reason =>
    refine .inr ⟨Colour.red.paint colours "✗" ++ s!" {kind} on {o.address}: {reason}", ?_⟩
    simp only [String.append_assoc]
    rfl

/-- What the line that counts the changes has between its breaks. -/
def countWords (colours : Bool) (r : RunReport) : String :=
  (if r.dryRun then "Plan" else "Run") ++ ": " ++
    Colour.green.paint colours (toString (count r .create)) ++ " to create, " ++
    Colour.yellow.paint colours (toString (count r .update)) ++ " to update, " ++
    Colour.red.paint colours (toString (count r .delete)) ++ " to delete, " ++
    toString r.appliedCount ++ " applied"

theorem countLine_eq (colours : Bool) (r : RunReport) :
    countLine colours r = "\n" ++ (countWords colours r ++ "\n") := by
  simp only [countLine, countWords, String.append_assoc]
  rfl

theorem unbroken_countWords (colours : Bool) (r : RunReport) : Unbroken (countWords colours r) := by
  have hmode : Unbroken (if r.dryRun then "Plan" else "Run") := by split <;> decide
  simp only [countWords, unbroken_append, unbroken_toString, unbroken_paint, hmode, true_and,
    and_true]
  decide

theorem head?_countWords (colours : Bool) (r : RunReport) :
    (countWords colours r).toList.head? = some 'P' ∨
      (countWords colours r).toList.head? = some 'R' := by
  cases h : r.dryRun <;> simp [countWords, h]

theorem whole_countLine (colours : Bool) (r : RunReport) : Whole (countLine colours r) := by
  rw [countLine_eq, ← String.append_assoc]
  exact .inr ⟨_, rfl⟩

theorem linesOf_countLine (colours : Bool) (r : RunReport) :
    linesOf (countLine colours r) = [[], (countWords colours r).toList, []] := by
  have hfirst := linesOf_newline "" (countWords colours r ++ "\n")
  have hsecond := linesOf_newline (countWords colours r) ""
  rw [String.empty_append] at hfirst
  rw [String.append_empty] at hsecond
  rw [countLine_eq, hfirst, hsecond, linesOf_of_unbroken (unbroken_countWords colours r)]
  rfl

/-- The line is not the one that counts the changes. -/
theorem inSyncWords_notMem_countLine (colours : Bool) (r : RunReport) :
    inSyncWords colours ∉ linesOf (countLine colours r) := by
  intro hmem
  rw [linesOf_countLine] at hmem
  simp only [List.mem_cons, inSyncWords_ne_nil, List.not_mem_nil, or_false, false_or] at hmem
  rcases head?_countWords colours r with h | h
  · exact inSyncWords_ne h (by decide) (by decide) hmem
  · exact inSyncWords_ne h (by decide) (by decide) hmem

theorem whole_changeTable (colours : Bool) (r : RunReport) : Whole (changeTable colours r) :=
  .inr ⟨_, rfl⟩

/-- The title of a table of changes. -/
def tableTitle (r : RunReport) : String := if r.dryRun then "Planned changes" else "Changes"

theorem unbroken_tableTitle (r : RunReport) : Unbroken (tableTitle r) := by
  unfold tableTitle
  split <;> decide

theorem head?_tableTitle (r : RunReport) :
    (tableTitle r).toList.head? = some 'P' ∨ (tableTitle r).toList.head? = some 'C' := by
  unfold tableTitle
  split
  · exact .inl rfl
  · exact .inr rfl

theorem linesOf_changeTable (colours : Bool) (r : RunReport) :
    linesOf (changeTable colours r) = [[], (tableTitle r).toList, []] ++
      (linesOf (Table.render (header :: (changes r).map (changeRow colours))) ++ [[]]) := by
  have htable : changeTable colours r = "" ++ "\n" ++ (tableTitle r ++ "\n" ++ ("" ++ "\n" ++
      (Table.render (header :: (changes r).map (changeRow colours)) ++ "\n" ++ ""))) := by
    simp only [changeTable, String.append_assoc, String.empty_append, String.append_empty]
    rfl
  simp only [htable, linesOf_newline, linesOf_of_unbroken (unbroken_tableTitle r)]
  rfl

/-- The line is none of a table of changes. -/
theorem inSyncWords_notMem_changeTable (colours : Bool) (r : RunReport) :
    inSyncWords colours ∉ linesOf (changeTable colours r) := by
  intro hmem
  simp only [linesOf_changeTable, List.mem_append, List.mem_cons, inSyncWords_ne_nil,
    List.not_mem_nil, or_false, false_or] at hmem
  rcases hmem with htitle | hline
  · rcases head?_tableTitle r with h | h
    · exact inSyncWords_ne h (by decide) (by decide) htitle
    · exact inSyncWords_ne h (by decide) (by decide) htitle
  · -- a cell may hold the words, but its line begins with the border
    rcases Table.head?_of_mem_render hline with h | h
    · exact inSyncWords_ne h (by decide) (by decide) rfl
    · exact inSyncWords_ne h (by decide) (by decide) rfl

theorem whole_of_mem_failures
    (h : t ∈ r.kinds.flatMap fun k => k.outcomes.map (failureLine colours k.kind)) : Whole t := by
  obtain ⟨k, -, h⟩ := List.mem_flatMap.1 h
  obtain ⟨o, -, rfl⟩ := List.mem_map.1 h
  exact whole_failureLine k.kind o

theorem whole_failureLines (colours : Bool) (r : RunReport) : Whole (failureLines colours r) :=
  whole_join fun _ => whole_of_mem_failures

theorem mem_linesOf_failureLines (hline : line ≠ []) :
    line ∈ linesOf (failureLines colours r) ↔
      ∃ k ∈ r.kinds, ∃ o ∈ k.outcomes, line ∈ linesOf (failureLine colours k.kind o) := by
  rw [failureLines, mem_linesOf_join hline fun _ => whole_of_mem_failures]
  simp only [List.mem_flatMap, List.mem_map]
  constructor
  · rintro ⟨t, ⟨k, hk, o, ho, rfl⟩, hmem⟩
    exact ⟨k, hk, o, ho, hmem⟩
  · rintro ⟨k, hk, o, ho, hmem⟩
    exact ⟨_, ⟨k, hk, o, ho, rfl⟩, hmem⟩

/-- **A report says that there is nothing to do** exactly if it lists no change,
    unless the words of a failure say so. -/
theorem saysInSync_iff (colours : Bool) (r : RunReport) :
    SaysInSync colours r ↔ changes r = [] ∨ Quotes colours r := by
  have hne := inSyncWords_ne_nil colours
  have hhead : Whole (if (changes r).isEmpty then inSyncLine colours else changeTable colours r) := by
    split
    · exact whole_inSyncLine colours
    · exact whole_changeTable colours r
  have hline : inSyncWords colours ∈
      linesOf (if (changes r).isEmpty then inSyncLine colours else changeTable colours r) ↔
        changes r = [] := by
    split
    · rename_i hempty
      rw [linesOf_inSyncLine]
      exact iff_of_true List.mem_cons_self (List.isEmpty_iff.1 hempty)
    · rename_i hempty
      exact iff_of_false (inSyncWords_notMem_changeTable colours r)
        fun h => hempty (List.isEmpty_iff.2 h)
  have hfailures := whole_failureLines colours r
  -- the texts but the last are whole, so the line is in one of them: in the first if nothing is
  -- listed, never in the count, and else in words that come from outside
  rw [SaysInSync, runText,
    mem_linesOf_append hne ((hhead.append hfailures).append (whole_countLine colours r)),
    mem_linesOf_append hne (hhead.append hfailures), mem_linesOf_append hne hhead, hline,
    mem_linesOf_failureLines hne, or_iff_left (inSyncWords_notMem_countLine colours r), or_assoc]
  rfl

end Report

/-! ## Runs -/

/-- The outcome on an instance whose items could not be fetched. -/
def Outcome.Unfetched (o : Outcome) : Prop := ∃ e, o = Outcome.unfetched o.address o.dryRun e

namespace Pass

open Session

variable {σ α : Type} [Item α] {ctx : Context σ} {kind : Kind α} {a : String} {w : World σ}

/-- An instance without changes on which something failed is one whose items
    could not be fetched. -/
theorem error_of_changes_eq_nil (h : ((onInstance ctx kind a).result w).changes = []) :
    ((onInstance ctx kind a).result w).error = none ∨
      ∃ e, (onInstance ctx kind a).result w = Outcome.unfetched a ctx.dryRun e := by
  cases hfetch : (kind.fetch ctx a).result w with
  | error e => exact .inr ⟨e, (onInstance_of_fetch_error hfetch).1⟩
  | ok observed =>
    left
    rw [(onInstance_of_fetch_ok hfetch).1] at h ⊢
    cases hdry : ctx.dryRun with
    | true =>
      rw [(carryOut_of_dryRun hdry).1]
      rfl
    | false =>
      have hempty : (planOf kind a observed).isEmpty = true := by
        by_contra hsteps
        rw [(carryOut_of_live hdry hsteps).1] at h
        exact hsteps (Plan.isEmpty_iff.2 (Plan.changes_eq_nil_iff.1 h))
      rw [(carryOut_of_isEmpty hempty).1]
      rfl

end Pass

namespace Run

open Session Text Report

variable {σ : Type} {ctx : Context σ} {c : Config} {kinds : List KindName} {stamp : RunStamp}
  {w : World σ} {o : Outcome}

/-- Every outcome of a run is that of a pass on one instance. -/
theorem exists_onInstance_of_mem (ho : o ∈ ((perform ctx c kinds stamp).result w).outcomes) :
    ∃ k, ∃ w' : World σ, o = (Pass.onInstance ctx (c.kind k) o.address).result w' := by
  obtain ⟨r, hr, ho⟩ := List.mem_flatMap.1 ho
  obtain ⟨k, w', rfl, -⟩ := mem_kinds_perform hr
  have hrecord : ∀ es, Keeps (Fixes fun _ : World σ => ()) (Session.record es) := fun _ _ => rfl
  have hmark : ∀ b, Keeps (Fixes fun _ : World σ => ()) (markInvalid b) := fun _ _ => rfl
  have hbears : ∀ b, Pass.Bears (Fixes fun _ : World σ => ()) ctx (c.kind k) b := fun _ =>
    ⟨(c.serves k).asks, ⟨fun _ _ => rfl, fun _ _ => rfl⟩, fun _ _ _ _ _ _ => rfl⟩
  obtain ⟨w'', -, -, heq⟩ := Pass.world_of_mem_perform hrecord hmark hbears ho
  exact ⟨k, w'', heq⟩

/-- Without changes, a run succeeds if the items of all instances could be
    fetched. -/
theorem success_iff_of_changes_eq_nil (h : changes ((perform ctx c kinds stamp).result w) = []) :
    ((perform ctx c kinds stamp).result w).success = true ↔
      ∀ o ∈ ((perform ctx c kinds stamp).result w).outcomes, ¬ o.Unfetched := by
  rw [success_iff_forall]
  refine forall₂_congr fun o ho => ?_
  constructor
  · rintro hnone ⟨e, heq⟩
    rw [heq] at hnone
    cases hnone
  · intro hfetched
    obtain ⟨k, w', heq⟩ := exists_onInstance_of_mem ho
    have hchanges : o.changes = [] := List.flatMap_eq_nil_iff.1 h o ho
    rw [heq] at hchanges
    have herror := Pass.error_of_changes_eq_nil hchanges
    rw [← heq] at herror
    refine herror.resolve_right fun ⟨e, hunfetched⟩ => hfetched ⟨e, ?_⟩
    rw [hunfetched]
    rfl

theorem not_quotes_of_success (colours : Bool)
    (h : ((perform ctx c kinds stamp).result w).success = true) :
    ¬ Quotes colours ((perform ctx c kinds stamp).result w) := by
  have hnone := success_iff_forall kinds stamp w |>.1 h
  have hempty : inSyncWords colours ∉ linesOf "" := fun hmem =>
    inSyncWords_ne_nil colours (List.mem_singleton.1 hmem)
  rintro (⟨k, hk, o, ho, hmem⟩ | hmem)
  · rw [failureLine, hnone o (List.mem_flatMap.2 ⟨k, hk, ho⟩)] at hmem
    exact hempty hmem
  · rw [invalidLine, if_pos h] at hmem
    exact hempty hmem

/-- **What the text of a run says**: that every instance is in sync, if the run
    lists no change or the words of a failure say so.  The words of a successful
    run never do.  A run without changes is successful if the items of all
    instances could be fetched, so the line is wrong just where they could
    not. -/
theorem in_sync_said_iff (ctx : Context σ) (c : Config) (kinds : List KindName) (stamp : RunStamp)
    (w : World σ) (colours : Bool) :
    let r := (perform ctx c kinds stamp).result w
    (SaysInSync colours r ↔ changes r = [] ∨ Quotes colours r) ∧
      (r.success = true → ¬ Quotes colours r) ∧
      (changes r = [] → (r.success = true ↔ ∀ o ∈ r.outcomes, ¬ o.Unfetched)) :=
  ⟨saysInSync_iff colours _, not_quotes_of_success colours, success_iff_of_changes_eq_nil⟩

/-- A run over one instance that wants a mount and is given a server. -/
def engineRun (m : Memory) : RunReport :=
  (perform ⟨Memory.server, false, 1, []⟩ (engineDocument "kv") [.engine]
    ⟨"first", ⟨0, 0⟩, Decimal.zero false⟩).result ⟨m, .ofAddresses ["http://a"], [], []⟩

/-- On an instance that has the mount, nothing is to be done, and it is said. -/
theorem in_sync_said_iff_mounted :
    let mounts := Dict.ofList [("kv/", ⟨"kv", "", none⟩)]
    let r := engineRun (.ofInstances (Dict.ofList [("http://a", ⟨Dict.empty, mounts, Dict.empty⟩)]))
    r.success = true ∧ SaysInSync false r ∧ changes r = [] := by
  intro mounts r
  obtain ⟨hline, hquotes, hsuccess⟩ := in_sync_said_iff ⟨Memory.server, false, 1, []⟩
    (engineDocument "kv") [.engine] ⟨"first", ⟨0, 0⟩, Decimal.zero false⟩
    ⟨.ofInstances (Dict.ofList [("http://a", ⟨Dict.empty, mounts, Dict.empty⟩)]),
      .ofAddresses ["http://a"], [], []⟩ false
  have hsucceeds : r.success = true := by decide
  have hsaid : SaysInSync false r := hline.2 (.inl (by decide))
  exact ⟨hsucceeds, hsaid, (hline.1 hsaid).resolve_right (hquotes hsucceeds)⟩

/-- **A run that failed is said to be in sync**: its instance cannot be
    reached. -/
theorem unreachable_said_in_sync :
    let r := engineRun ⟨Dict.empty, ["http://a"], [], 0⟩
    SaysInSync false r ∧ r.success = false ∧ r.invalid = ["http://a"] ∧
      runText false r = "✓ No changes required, every instance is in sync.\n" ++
        "✗ secrets engine on http://a: Vault API error: Network error communicating with " ++
        "http://a: connection refused\n\nRun: 0 to create, 0 to update, 0 to delete, 0 applied\n" ++
        "⚠ Failed instances: http://a\n" := by
  intro r
  refine ⟨?_, by decide, by decide, by decide +kernel⟩
  exact (saysInSync_iff false r).2 (.inl (by decide))

end Run

end Concord

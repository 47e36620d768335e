import MooseHerd.Proofs.Populate.Reports
import MooseHerd.Proofs.Run.DryRun
import MooseHerd.Store.Script

/-! # The channels of a run

A run shows itself in the requests to the store, in what it prints and in what it reports. These
are written by different parts of the program, and they agree: each of them breaks off where the
store refuses a document, and without a batch there is nothing on the first two. -/

namespace MooseHerd

open MooseHerd.Random Names

namespace Step

theorem events_append (before after : List Step) :
    events (before ++ after) = events before ++ events after :=
  List.filterMap_append

theorem documents_append (before after : List Step) :
    documents (before ++ after) = documents before ++ documents after :=
  List.filterMap_append

theorem exchanged_append (before after : List Step) :
    exchanged (before ++ after) = exchanged before ++ exchanged after :=
  List.filter_append ..

end Step

namespace Run

/-- No batch is made: the letter is not a single alphabetic character, no moose are asked for, or
the candidates within the limit hold too few names. -/
def WithoutBatch (settings : Settings) (provided : ChaChaStream) (count : Nat) : Prop :=
  (¬ ∃ c, settings.generator.letter.toList = [c] ∧ Text.isAlphabetic c = true) ∨ count = 0 ∨
    ∃ plan, settings.herdPlan = .ok plan ∧
      (lowerForms plan.letter (drawn drawFrom (NamePool.english, plan.words provided)
        plan.maxAttempts)).card < count

/-- Documents as they are printed. -/
def printed (docs : List Json) : String := String.join (docs.map fun doc => doc.pretty ++ "\n")

theorem rule_eq : rule = "------------------------------\n" := by decide

end Run

/-! ## Whether there is a batch -/

theorem GeneratorSettings.designatedLetter_eq_ok_iff {g : GeneratorSettings} {c : Char} :
    g.designatedLetter = .ok c ↔ g.letter.toList = [c] ∧ Text.isAlphabetic c = true := by
  unfold designatedLetter
  split
  · rename_i c' hc'
    rw [hc']
    split
    · rename_i halpha
      constructor
      · intro h
        cases h
        exact ⟨rfl, halpha⟩
      · rintro ⟨h, -⟩
        cases h
        rfl
    · rename_i halpha
      constructor
      · intro h
        cases h
      · rintro ⟨h, hc⟩
        cases h
        exact absurd hc halpha
  · rename_i hne
    constructor
    · intro h
      cases h
    · rintro ⟨h, -⟩
      exact absurd h (hne c)

theorem Settings.exists_herdPlan_iff {settings : Settings} :
    (∃ plan, settings.herdPlan = .ok plan) ↔
      ∃ c, settings.generator.letter.toList = [c] ∧ Text.isAlphabetic c = true := by
  constructor
  · rintro ⟨plan, hplan⟩
    obtain ⟨c, hc, -⟩ := bind_eq_ok.mp hplan
    exact ⟨c, GeneratorSettings.designatedLetter_eq_ok_iff.mp hc⟩
  · rintro ⟨c, hc⟩
    rw [herdPlan, GeneratorSettings.designatedLetter_eq_ok_iff.mpr hc]
    exact ⟨_, rfl⟩

namespace Run

section

variable {plan : HerdPlan} {provided : ChaChaStream} {count : Nat}

/-- A batch that is asked for is made if and only if the candidates hold its names. -/
theorem exists_herd_iff : (∃ h, herd plan provided count = .ok h) ↔ count ≠ 0 ∧
    count ≤ (lowerForms plan.letter (drawn drawFrom (NamePool.english, plan.words provided)
      plan.maxAttempts)).card := by
  by_cases hcount : count = 0
  · subst hcount
    constructor
    · rintro ⟨h, hherd⟩
      cases hherd
    · rintro ⟨hne, -⟩
      exact absurd rfl hne
  · rw [and_iff_right hcount]
    rcases search_eq drawFrom plan.letter plan.maxAttempts count
      (NamePool.english, plan.words provided) with ⟨k, hk, hleast, hsearch⟩ | ⟨hfew, hsearch⟩
    · have hmake := Herd.make_of_search hcount hsearch
      refine iff_of_true ⟨_, congrArg Prod.fst hmake⟩ ?_
      exact hleast.1 ▸ countAfter_mono drawFrom plan.letter _ hk
    · refine iff_of_false ?_ (Nat.not_le_of_lt hfew)
      rintro ⟨h, hherd⟩
      rw [herd, Herd.make, if_neg hcount, hsearch] at hherd
      cases hherd

theorem length_of_herd {h : Herd} (hherd : herd plan provided count = .ok h) :
    (h.manifests plan).length = count := by
  have hcount : 1 ≤ count := Nat.one_le_iff_ne_zero.mpr (exists_herd_iff.mp ⟨h, hherd⟩).1
  rcases Herd.make_cases plan hcount (NamePool.english, plan.words provided) with
    ⟨made, after, hmake, -, hbatch⟩ | ⟨-, hmake⟩
  · cases hherd.symm.trans (congrArg Prod.fst hmake)
    exact hbatch.length_eq
  · cases hherd.symm.trans (congrArg Prod.fst hmake)

end

/-- Neither the runner nor the populator reports while a batch is made. -/
theorem target_of_mem_events {plan : HerdPlan} {h : Herd} {event : Log.Event}
    (hevent : event ∈ h.events plan) :
    event.target ≠ "moose_generator::cli::runner" ∧
      event.target ≠ "moose_generator::populate" := by
  rw [Herd.events, List.cons_append, List.mem_cons, List.mem_append, List.mem_map,
    List.mem_singleton] at hevent
  rcases hevent with rfl | ⟨member, -, rfl⟩ | rfl
  all_goals simp [NameList.event, Herd.memberEvent, Herd.completionEvent]

end Run

/-! ## What a batch leaves behind -/

namespace Populate

variable {σ : Type} [ObjectStore σ] (target : Target) (total : Nat) (batch : List Manifest)
  (store : σ)

/-- The exchanges with the store and the reports of a batch break off at the same manifest. -/
theorem course_agrees :
    let c := course target total 0 batch store
    let replies := replies target batch store
    (c.failure = none ∧ c.stored.length = batch.length ∧
      replies.map (·.result) = c.stored.map .ok ∧
      Step.exchanged c.steps = exchanges target batch c.stored ∧
      Step.events c.steps = progress target total 0 (batch.zip replies)) ∨
    (∃ m reply e, batch[c.stored.length]? = some m ∧ replies[c.stored.length]? = some reply ∧
      (replies.take c.stored.length).map (·.result) = c.stored.map .ok ∧
      reply.result = .error e ∧
      c.failure = some (.aborted c.stored.length total m.name e) ∧
      Step.exchanged c.steps =
        exchanges target batch c.stored ++ [.submitted target m.document] ∧
      Step.events c.steps =
        progress target total 0 ((batch.zip replies).take c.stored.length) ++ reply.events ++
          [failureEvent m.name e c.stored.length total]) := by
  intro c replies
  have hreplies : replies.map (·.result) = answers target batch store :=
    map_result_replies target batch store
  rcases course_cases target total batch 0 store with
    ⟨hanswers, hfailure, hexchanged, -⟩ | ⟨m, e, later, hm, hanswers, hfailure, hexchanged, -⟩
  · have hlength : c.stored.length = batch.length := by
      rw [← length_answers target batch store, hanswers, List.length_map]
    refine .inl ⟨hfailure, hlength, hreplies.trans hanswers, hexchanged, ?_⟩
    rcases events_course target total batch 0 store with ⟨-, hevents⟩ | ⟨m, -, -, hm, -⟩
    · refine hevents.trans (congrArg _ (List.take_of_length_le ?_))
      rw [List.length_zip]
      exact (Nat.min_le_left ..).trans (Nat.le_of_eq hlength.symm)
    · exact absurd (List.getElem?_eq_some_iff.mp hm).1 (Nat.lt_irrefl _ <| hlength ▸ ·)
  · rcases events_course target total batch 0 store with
      ⟨hnone, -⟩ | ⟨m', reply, e', hm', hreply, herror, hfailure', hevents⟩
    · cases hfailure.symm.trans hnone
    · -- both tell of the same error, since it is the one that the batch ends with
      cases hm.symm.trans hm'
      obtain rfl : e = e' := by simpa using hfailure.symm.trans hfailure'
      rw [Nat.zero_add] at hfailure hevents
      refine .inr ⟨m, reply, e, hm, hreply, ?_, herror, hfailure, hexchanged, hevents⟩
      rw [List.map_take, hreplies, hanswers]
      exact List.take_left' (List.length_map ..)

end Populate

namespace Run

/-! ## Runs with a batch -/

section

variable {σ : Type} (settings : Settings) (opening : List Log.Event) (batch : List Manifest)
  (replies : List Reply) (docs : List Json) (run : Run σ)

/-- The store created a document for every manifest. All of them are printed with a summary after
them, and reported one by one, each with its number and that of all manifests. -/
structure IsComplete : Prop where
  replied : replies.map (·.result) = docs.map .ok
  result : run.result =
    .ok { requested := batch.length, created := batch.length, stored := docs }
  exchanged : Step.exchanged run.steps = Populate.exchanges settings.target batch docs
  output : run.output settings = printed docs ++
    ("\nMoose 创建完成:\n" ++ "------------------------------\n" ++
      "请求数量: " ++ toString batch.length ++ "\n" ++
      "创建数量: " ++ toString batch.length ++ "\n" ++
      "命名空间: " ++ settings.cluster.space ++ "\n" ++ "------------------------------\n")
  events : Step.events run.steps =
    opening ++ Populate.progress settings.target batch.length 0 (batch.zip replies)

/-- The store created documents and then replied with an error to the manifest after them, which is
the last one that it was asked for. The documents are printed without a summary. The error is
reported after them with their number, and there is a hint that it may pass if it may. -/
structure IsBrokenOff (m : Manifest) (reply : Reply) (e : Error) : Prop where
  refused : batch[docs.length]? = some m
  answered : replies[docs.length]? = some reply
  replied : (replies.take docs.length).map (·.result) = docs.map .ok
  error : reply.result = .error e
  result : run.result =
    .error ⟨some "创建 Moose 失败", .aborted docs.length batch.length m.name e⟩
  exchanged : Step.exchanged run.steps =
    Populate.exchanges settings.target batch docs ++ [.submitted settings.target m.document]
  output : run.output settings = printed docs
  events : Step.events run.steps =
    opening ++ Populate.progress settings.target batch.length 0
        ((batch.zip replies).take docs.length) ++ reply.events ++
      [{ level := .error
         target := "moose_generator::populate"
         message := "Moose 创建失败，停止提交: " ++ e.message
         fields := [("name", .text m.name), ("code", .text e.code),
           ("retryable", .flag e.isRetryable), ("created", .count docs.length),
           ("total", .count batch.length)] }] ++
      if e.isRetryable then
        [{ level := .warn
           target := "moose_generator::cli::runner"
           message := "失败原因为瞬时故障，可稍后重新执行"
           fields := [("code", .text e.code)] }]
      else []

variable {settings batch docs run} in
/-- What a run prints of the documents is told by its exchanges with the store. -/
theorem output_of_exchanged {rest : List Step} (hlength : docs.length ≤ batch.length)
    (hexchanged : Step.exchanged run.steps =
      Populate.exchanges settings.target batch docs ++ rest)
    (hrest : Step.documents rest = []) :
    run.output settings = printed docs ++
      match run.result with
      | .ok report => summary settings.target.space report
      | .error _ => "" := by
  have hdocs : Step.documents run.steps = docs := by
    rw [← Step.documents_exchanged, hexchanged, Step.documents_append, hrest, List.append_nil,
      Populate.documents_exchanges settings.target hlength]
  rw [output, hdocs]
  rfl

end

variable {σ : Type} [ObjectStore σ] (settings : Settings) (provided : ChaChaStream) (store : σ)
  (count : Nat)

/-- A batch that was announced is handed over up to the first error of the store. -/
theorem handOver_cases (opening : List Log.Event) (batch : List Manifest) :
    let run := (handOver settings.target store batch).after (opening.map .reported) id
    let replies := Populate.replies settings.target batch store
    (∃ docs, IsComplete settings opening batch replies docs run) ∨
    (∃ docs m reply e, IsBrokenOff settings opening batch replies docs run m reply e) := by
  intro run replies
  let c := Populate.course settings.target batch.length 0 batch store
  rcases Populate.course_agrees settings.target batch.length batch store with
    ⟨hfailure, hlength, hreplied, hexchanged, hevents⟩ |
    ⟨m, reply, e, hm, hreply, hreplied, herror, hfailure, hexchanged, hevents⟩
  · have hrun : run =
        { result := .ok { requested := batch.length, created := batch.length, stored := c.stored }
          steps := opening.map .reported ++ c.steps
          store := c.store } := by
      simp only [run, handOver, populate, hfailure, after, id_eq, c, hlength]
    have hsteps : Step.exchanged run.steps =
        Populate.exchanges settings.target batch c.stored := by
      rw [hrun, Step.exchanged_reports]
      exact hexchanged
    refine .inl ⟨c.stored, hreplied, ?_, hsteps, ?_, ?_⟩
    · rw [hrun]
    · rw [output_of_exchanged (Nat.le_of_eq hlength)
        (hsteps.trans (List.append_nil _).symm) rfl, hrun, ← rule_eq]
      rfl
    · rw [hrun, Step.events_reports]
      exact congrArg _ hevents
  · have hlength : c.stored.length < batch.length := (List.getElem?_eq_some_iff.mp hm).1
    have hrun : run =
        { result := .error ⟨some "创建 Moose 失败",
            .aborted c.stored.length batch.length m.name e⟩
          steps := opening.map .reported ++
            (c.steps ++ if e.isRetryable then [.reported (retryEvent e)] else [])
          store := c.store } := by
      simp only [run, handOver, populate, hfailure, after, id_eq, c]
      rfl
    have hsteps : Step.exchanged run.steps =
        Populate.exchanges settings.target batch c.stored ++
          [.submitted settings.target m.document] := by
      have hretry : Step.exchanged (if e.isRetryable then [.reported (retryEvent e)] else []) =
          [] := by
        split <;> rfl
      rw [hrun, Step.exchanged_reports, Step.exchanged_append, hretry, List.append_nil]
      exact hexchanged
    refine .inr ⟨c.stored, m, reply, e, hm, hreply, hreplied, herror, ?_, hsteps, ?_, ?_⟩
    · rw [hrun]
    · rw [output_of_exchanged (Nat.le_of_lt hlength) hsteps rfl, hrun]
      exact String.append_empty
    · have hretry : Step.events (if e.isRetryable then [.reported (retryEvent e)] else []) =
          if e.isRetryable then [retryEvent e] else [] := by
        split <;> rfl
      rw [hrun, Step.events_reports, Step.events_append, hevents, hretry]
      simp only [List.append_assoc]
      rfl

/-- Either it is told why there is no batch, and the store is not touched, or a batch is handed
over. -/
theorem withStore_cases :
    (WithoutBatch settings provided count ∧
      ∃ setback, withStore settings provided store count =
        { result := .error setback
          steps := [.reported (startEvent settings.target count)]
          store }) ∨
    (¬ WithoutBatch settings provided count ∧
      ∃ plan h, settings.herdPlan = .ok plan ∧ herd plan provided count = .ok h ∧
        withStore settings provided store count =
          (handOver settings.target store (h.manifests plan)).after
            ((startEvent settings.target count :: h.events plan).map .reported) id) := by
  cases hplan : settings.herdPlan with
  | error e =>
    refine .inl ⟨.inl fun hletter => ?_, ⟨some "生成器配置无效", e⟩, ?_⟩
    · obtain ⟨plan, hok⟩ := Settings.exists_herdPlan_iff.mpr hletter
      cases hplan.symm.trans hok
    · simp only [withStore, hplan]
  | ok plan =>
    cases hherd : herd plan provided count with
    | error e =>
      refine .inl ⟨.inr ?_, ⟨some "生成 Moose 失败", e⟩, ?_⟩
      · have hnone : ¬ ∃ h, herd plan provided count = .ok h := by
          rintro ⟨h, hok⟩
          cases hherd.symm.trans hok
        by_cases hcount : count = 0
        · exact .inl hcount
        · refine .inr ⟨plan, hplan, Nat.lt_of_not_le fun hmany => ?_⟩
          exact hnone (exists_herd_iff.mpr ⟨hcount, hmany⟩)
      · exact withStore_of_error store hplan hherd
    | ok h =>
      refine .inr ⟨?_, plan, h, rfl, hherd, ?_⟩
      · obtain ⟨hcount, hmany⟩ := exists_herd_iff.mp ⟨h, hherd⟩
        rintro (hletter | hzero | ⟨plan', hplan', hfew⟩)
        · exact hletter (Settings.exists_herdPlan_iff.mp ⟨plan, hplan⟩)
        · exact hcount hzero
        · cases hplan.symm.trans hplan'
          exact absurd hfew (Nat.not_lt_of_le hmany)
      · exact withStore_of_herd store hplan hherd

end Run

end MooseHerd

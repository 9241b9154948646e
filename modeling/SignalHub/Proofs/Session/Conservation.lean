import SignalHub.Proofs.Session.Output

/-!
# Conservation of printed bytes

A stream among the targets of a session: what was printed while it was the
target is in its device or held back before it, in order, once, and nothing
else is.
-/

namespace SignalHub.Session

open Output Text

/-- A stream takes the place of whatever was the target, steps print to it and
flush it, and another target takes its place.  At the end of these steps its
device and its buffer hold one chunk for each of them: the whole text of a print
that succeeded, a proper beginning of that of one that failed, and nothing
more.  Before and after nothing reaches it, except that at its end it may still
write what it holds. -/
theorem stream_conserves_bytes
    (session : Session) (before during after : List Step)
    (name : String) (device : Device) (capacity : Option Nat)
    (target : Option Target)
    (unused : session.Avoids name)
    (elsewhere : ∀ step ∈ before ++ .setOutput target :: after,
      step.ConcernsOutput ∧ step.Avoids name)
    (calm : ∀ step ∈ during, step.PrintsOrFlushes) :
    ∃ early kept ended reached stream lost, ∃ last : Answer,
      session.run
          (before ++
            .setOutput (some (.stream ⟨name, device, capacity, []⟩)) ::
              (during ++ .setOutput target :: after)) =
          early ++ (kept ++ last :: ended) ∧
        early.length = before.length + 1 ∧
        kept.length = during.length ∧
        session.reach
            (before ++
              .setOutput (some (.stream ⟨name, device, capacity, []⟩)) ::
                during) =
          some reached ∧
        reached.stream? = some stream ∧
        Kept ⟨name, device, capacity, []⟩ stream during kept ∧
        accepted last.trace.transfers ++ lost = stream.held ∧
        ∀ transfer ∈ traffic (early ++ ended), transfer.stream ≠ name := by
  let first : Stream := ⟨name, device, capacity, []⟩
  let install : Step := .setOutput (some (.stream first))
  obtain ⟨arrived, arrives, unusedThen, silentBefore⟩ :=
    unused.run fun step member =>
      elsewhere step (List.mem_append_left _ member)
  obtain ⟨installed, installs, channel, _, _⟩ :=
    step_setOutput arrived (some (.stream first))
  have streaming : installed.stream? = some first := by
    rw [stream?, channel]
    rfl
  have silentInstall :=
    unusedThen.transfers (Or.inr ⟨some (.stream first), rfl⟩)
  have installsHere : session.reach (before ++ [install]) = some installed := by
    rw [reach_concat arrives, installs]
  obtain ⟨reached, stream, reaches, streamingThen, kept⟩ :=
    reach_kept streaming (fun _ => rfl) calm
  obtain ⟨replaced, replaces, channelThen, _, _⟩ :=
    step_setOutput reached target
  have others :
      ∀ step ∈ .setOutput target :: after,
        step.ConcernsOutput ∧ step.Avoids name :=
    fun step member => elsewhere step (List.mem_append_right before member)
  have unusedAfter : replaced.Avoids name :=
    avoids_of_installed channelThen (others _ List.mem_cons_self).2
  obtain ⟨_, _, _, silentAfter⟩ :=
    unusedAfter.run fun step member =>
      others step (List.mem_cons_of_mem _ member)
  cases flushed : stream.flush with
  | mk final result =>
      obtain ⟨transfers, fault⟩ := result
      refine ⟨session.run (before ++ [install]), installed.run during,
        replaced.run after, reached, stream, final.close.1.held,
        reached.answer (.setOutput target), ?_, ?_, length_run reaches, ?_,
        streamingThen, kept, ?_, ?_⟩
      · rw [List.append_cons, run_append installsHere, run_append reaches,
          run_cons_of_next replaces]
      · rw [length_run installsHere, List.length_append, List.length_singleton]
      · rw [List.append_cons, reach_append, installsHere, Option.bind_some,
          reaches]
      · rw [transfers_setOutput_of_stream streamingThen flushed]
        exact (Stream.end_splits flushed).1
      · intro transfer member
        rw [run_concat arrives, traffic, List.flatMap_append,
          List.flatMap_append, List.mem_append, List.mem_append,
          List.flatMap_singleton] at member
        rcases member with (early | install) | late
        · exact silentBefore transfer early
        · exact silentInstall transfer install
        · exact silentAfter transfer late

/-- A bare stream after a buffered one, and standard output after both. -/
theorem stream_conserves_bytes_between :
    ∃ early kept ended reached stream, ∃ last : Answer,
      (fresh .own false "" (Build.current "" "")).run
          [.setOutput (some (.stream (Stream.buffered "old" .boundless 8))),
            .print (Message.text "one"),
            .setOutput (some (.stream (Stream.bare "new" .boundless))),
            .print (Message.text "two"), .flush, .setOutput none,
            .print (Message.text "three")] =
          early ++ (kept ++ last :: ended) ∧
        (fresh .own false "" (Build.current "" "")).reach
            [.setOutput (some (.stream (Stream.buffered "old" .boundless 8))),
              .print (Message.text "one"),
              .setOutput (some (.stream (Stream.bare "new" .boundless))),
              .print (Message.text "two"), .flush] =
          some reached ∧
        reached.stream? = some stream ∧
        Kept (Stream.bare "new" .boundless) stream
          [.print (Message.text "two"), .flush] kept ∧
        ∀ transfer ∈ traffic (early ++ ended), transfer.stream ≠ "new" := by
  have elsewhere :
      ∀ step ∈
        [Step.setOutput
            (some (.stream (Stream.buffered "old" .boundless 8))),
          .print (Message.text "one")] ++
          .setOutput none :: [.print (Message.text "three")],
        step.ConcernsOutput ∧ step.Avoids "new" := by
    intro step member
    simp only [List.cons_append, List.nil_append, List.mem_cons,
      List.not_mem_nil, or_false] at member
    rcases member with rfl | rfl | rfl | rfl
    · refine ⟨Or.inr ⟨_, rfl⟩, ?_⟩
      intro target same stream streaming
      cases same
      cases streaming
      decide
    · exact ⟨Or.inl rfl, fun target same => nomatch same⟩
    · refine ⟨Or.inr ⟨_, rfl⟩, ?_⟩
      intro target same stream streaming
      cases same
      cases streaming
    · exact ⟨Or.inl rfl, fun target same => nomatch same⟩
  have calm :
      ∀ step ∈ [Step.print (Message.text "two"), .flush],
        step.PrintsOrFlushes := by
    intro step member
    simp only [List.mem_cons, List.not_mem_nil, or_false] at member
    rcases member with rfl | rfl
    · rfl
    · trivial
  obtain ⟨early, kept, ended, reached, stream, _, last, run, _, _, reaches,
      streaming, keeps, _, others⟩ :=
    stream_conserves_bytes (fresh .own false "" (Build.current "" ""))
      [.setOutput (some (.stream (Stream.buffered "old" .boundless 8))),
        .print (Message.text "one")]
      [.print (Message.text "two"), .flush] [.print (Message.text "three")]
      "new" .boundless none none
      (avoids_fresh .own false "" (Build.current "" "") "new")
      elsewhere calm
  exact
    ⟨early, kept, ended, reached, stream, last, run, reaches, streaming,
      keeps, others⟩

end SignalHub.Session

import SignalHub.Proofs.Output.Channel
import SignalHub.Proofs.Output.HostFile

/-!
# Targets that the host installed

A stream or a file of the host takes over from standard output.  Each print and
each flush then goes to it and to nothing else; without one, standard output takes
everything.
-/

namespace SignalHub.Output

open Text

/-- A target other than standard output, in the state that it is in. -/
inductive Hosted where
  | stream (state : Stream)
  | file (name : String) (state : HostFile)

namespace Hosted

def print (data : Bytes) : Hosted → Hosted
  | .stream state => .stream (state.print data).1
  | .file name state => .file name (state.print data).1

def flush : Hosted → Hosted
  | .stream state => .stream state.flush.1
  | .file name state => .file name state.flush.1

/-- These texts were printed on a target in order, and it may have been flushed
before and after each of them.  It was used for nothing else. -/
inductive Serves : Hosted → List Bytes → Hosted → Prop where
  | unused (hosted : Hosted) : Serves hosted [] hosted
  | printed {hosted last : Hosted} {texts : List Bytes}
      (before : Serves hosted texts last) (text : Bytes) :
      Serves hosted (texts ++ [text]) (last.print text)
  | flushed {hosted last : Hosted} {texts : List Bytes}
      (before : Serves hosted texts last) :
      Serves hosted texts last.flush

theorem Serves.trans
    {first second third : Hosted} {early late : List Bytes}
    (begins : Serves first early second)
    (continues : Serves second late third) :
    Serves first (early ++ late) third := by
  induction continues with
  | unused =>
      rw [List.append_nil]
      exact begins
  | printed _ text inductionHypothesis =>
      rw [← List.append_assoc]
      exact .printed inductionHypothesis text
  | flushed _ inductionHypothesis => exact .flushed inductionHypothesis

end Hosted

theorem Ports.screen_setFile
    (ports : Ports) (name : String) (file : HostFile) :
    (ports.setFile name file).screen = ports.screen := by
  rw [setFile]
  split <;> rfl

namespace Channel

/-- The target that the host installed, if it did. -/
def hosted? (channel : Channel) (ports : Ports) : Option Hosted :=
  match channel.current with
  | .screen => none
  | .stream stream => some (.stream stream)
  | .file name => some (.file name (ports.file name))

/-- What standard output holds back is no part of what the host installed. -/
theorem hosted?_congr
    {ports other : Ports} (files : other.files = ports.files)
    (channel : Channel) : channel.hosted? other = channel.hosted? ports := by
  have same : ∀ name, other.file name = ports.file name := by
    intro name
    rw [Ports.file, Ports.file, Ports.file?, Ports.file?, files]
  rw [hosted?, hosted?]
  cases channel.current with
  | file name => simp only [same]
  | _ => rfl

section Hosted

variable {channel : Channel} {ports : Ports} {hosted : Hosted}

theorem current_of_unhosted (unhosted : channel.hosted? ports = none) :
    channel.current = .screen := by
  rw [hosted?] at unhosted
  split at unhosted
  · assumption
  · cases unhosted
  · cases unhosted

/-- Standard output takes all that is printed. -/
theorem print_of_unhosted
    (unhosted : channel.hosted? ports = none) (data : Bytes) :
    channel.print ports data =
      (⟨some .screen⟩, { ports with screen := ports.screen.print data },
        [.shown data], .ok data.length) := by
  rw [print, current_of_unhosted unhosted]

theorem flush_of_unhosted (unhosted : channel.hosted? ports = none) :
    channel.flush ports =
      (channel, { ports with screen := ports.screen.flush }, [], none) := by
  rw [flush, current_of_unhosted unhosted]

theorem shown_map (transfers : List Transfer) :
    Trace.shown (transfers.map .transfer) = [] := by
  rw [Trace.shown, List.flatMap_eq_nil_iff]
  intro event member
  obtain ⟨transfer, _, rfl⟩ := List.mem_map.mp member
  rfl

/-- What is printed goes to the target of the host, and standard output gets nothing
of it. -/
structure Spares
    (after : Channel) (ports portsAfter : Ports) (trace : Trace)
    (hosted : Hosted) : Prop where
  hosted : after.hosted? portsAfter = some hosted
  configured : after.isConfigured = true
  silent : trace.shown = []
  screen : portsAfter.screen = ports.screen

theorem print_of_hosted
    (installed : channel.hosted? ports = some hosted) (data : Bytes) :
    Spares (channel.print ports data).1 ports (channel.print ports data).2.1
      (channel.print ports data).2.2.1 (hosted.print data) := by
  rw [hosted?] at installed
  rw [print]
  cases here : channel.current with
  | screen =>
      rw [here] at installed
      cases installed
  | stream stream =>
      rw [here] at installed
      cases installed
      exact ⟨rfl, rfl, shown_map _, rfl⟩
  | file name =>
      rw [here] at installed
      cases installed
      refine ⟨?_, rfl, rfl, ports.screen_setFile _ _⟩
      rw [hosted?]
      simp only [current, Option.getD_some, Ports.file_setFile]
      rfl

theorem configured_of_hosted
    (installed : channel.hosted? ports = some hosted) :
    channel.isConfigured = true := by
  rw [hosted?, current] at installed
  rw [isConfigured]
  cases here : channel.target with
  | none =>
      rw [here] at installed
      cases installed
  | some target => rfl

theorem flush_of_hosted
    (installed : channel.hosted? ports = some hosted) :
    Spares (channel.flush ports).1 ports (channel.flush ports).2.1
      (channel.flush ports).2.2.1 hosted.flush := by
  have configured := configured_of_hosted installed
  rw [hosted?] at installed
  rw [flush]
  cases here : channel.current with
  | screen =>
      rw [here] at installed
      cases installed
  | stream stream =>
      rw [here] at installed
      cases installed
      exact ⟨rfl, rfl, shown_map _, rfl⟩
  | file name =>
      rw [here] at installed
      cases installed
      refine ⟨?_, configured, rfl, ports.screen_setFile _ _⟩
      rw [hosted?, here]
      simp only [Ports.file_setFile]
      rfl

end Hosted

end Channel

end SignalHub.Output

import EzVpn.Lib.Channel
import EzVpn.Server.Handler
import EzVpn.Net.TunWriter

/-!
# How a server ends

`VpnServer::run` (src/tunnel/server.rs): the accept loop, a handler for each connection that was
accepted, and the TUN writer task.  Main and every handler hold a sender of the writer's channel.
When the endpoint has closed, main drops its sender, aborts the TUN reader and waits for the
writer, which goes on until all the handlers have dropped theirs and the channel is empty.

So the channel is open for as long as a handler lives, and when `run` returns, the writer has taken
all that any of them put into it (`shutdown_drains`).
-/

namespace EzVpn

open Lib

def writeBatchSize : Nat := 256

def tunWriterChannelSize : Nat := 512

inductive RunPhase
  | accepting
  /-- The sender is dropped, and the writer is waited for. -/
  | draining
  | returned
deriving DecidableEq

/-- Main holds its sender as `none`, the handler of a connection as `some`. -/
structure ServerRun where
  phase : RunPhase
  channel : Channel (Option ConnId) TunWriteRequest
  /-- The batches the writer has received. -/
  taken : List (List TunWriteRequest)
  writer : Writer Nat

inductive RunAction
  | accept (c : ConnId)
  /-- A handler's `enqueue_tun_write`. -/
  | enqueue (c : ConnId) (req : TunWriteRequest)
  | handlerEnds (c : ConnId)
  /-- The endpoint has closed, or the relay failover has ended. -/
  | acceptEnds
  /-- A turn of the writer's loop. -/
  | write
  /-- `tun_writer_handle.await`. -/
  | joined

namespace ServerRun

def start (device : TunDevice) : ServerRun := ⟨.accepting, .start none, [], ⟨device, 0, none⟩⟩

variable (w : TunWriter)

def step (st : ServerRun) : RunAction → ServerRun
  | .accept c => if st.phase = .accepting then { st with channel := st.channel.clone none (some c) } else st
  | .enqueue c req => { st with channel := st.channel.send tunWriterChannelSize (some c) req }
  | .handlerEnds c => { st with channel := st.channel.release (some c) }
  | .acceptEnds =>
    if st.phase = .accepting then { st with phase := .draining, channel := st.channel.release none } else st
  | .write =>
    -- a batch of zero ends the task
    if st.channel.ended then st
    else
      let (batch, channel) := st.channel.recvMany writeBatchSize
      if batch = [] then { st with channel }
      else { st with channel, taken := st.taken ++ [batch], writer := serverWriter w st.writer [batch] }
  | .joined => if st.phase = .draining ∧ st.channel.ended = true then { st with phase := .returned } else st

/-! ## What holds of every run -/

structure Inv (device : TunDevice) (st : ServerRun) : Prop where
  channel : st.channel.Inv tunWriterChannelSize
  taken : st.taken.flatten = st.channel.received
  writer : st.writer = serverWriter w ⟨device, 0, none⟩ st.taken
  returned : st.phase = .returned → st.channel.ended = true
  /-- Main has its sender while it accepts. -/
  main : none ∈ st.channel.holders → st.phase = .accepting

variable {w} {device : TunDevice} {st : ServerRun}

theorem serverWriter_concat (st : Writer Nat) (batches : List (List TunWriteRequest)) (batch : List TunWriteRequest) :
    serverWriter w st (batches ++ [batch]) = serverWriter w (serverWriter w st batches) [batch] := by
  simp [serverWriter, writerTask]

theorem Inv.write (h : Inv w device st) : Inv w device (st.step w .write) := by
  dsimp only [step]
  split
  · exact h
  · next hopen =>
    have hchannel := h.channel.recvMany writeBatchSize
    have hreceived := st.channel.received_recvMany writeBatchSize
    have hholders := st.channel.holders_recvMany writeBatchSize
    have hrunning : st.phase ≠ .returned := fun hphase => hopen (h.returned hphase)
    generalize st.channel.recvMany writeBatchSize = r at hchannel hreceived hholders
    obtain ⟨batch, channel⟩ := r
    dsimp only at hchannel hreceived hholders ⊢
    split
    · next hend =>
      refine ⟨hchannel, ?_, h.writer, fun hphase => absurd hphase hrunning, fun hmain => h.main (hholders ▸ hmain)⟩
      rw [h.taken, hreceived, hend, List.append_nil]
    · refine ⟨hchannel, ?_, ?_, fun hphase => absurd hphase hrunning, fun hmain => h.main (hholders ▸ hmain)⟩
      · rw [List.flatten_append, List.flatten_singleton, h.taken, hreceived]
      · rw [serverWriter_concat, ← h.writer]

theorem Inv.step (h : Inv w device st) (a : RunAction) : Inv w device (st.step w a) := by
  cases a with
  | accept c =>
    dsimp only [ServerRun.step]
    split
    · next hphase =>
      refine ⟨h.channel.clone none (some c), ?_, h.writer, fun hreturned => ?_, fun _ => hphase⟩
      · rw [h.taken, Channel.clone]
        split <;> rfl
      · rw [hphase] at hreturned
        cases hreturned
    · exact h
  | enqueue c req =>
    refine ⟨h.channel.send (some c) req, ?_, h.writer, fun hphase => ?_, fun hmain => h.main ?_⟩
    · dsimp only [ServerRun.step, Channel.send]
      split <;> exact h.taken
    · dsimp only [ServerRun.step, Channel.send]
      split <;> exact h.returned hphase
    · dsimp only [ServerRun.step, Channel.send] at hmain
      split at hmain <;> exact hmain
  | handlerEnds c =>
    exact ⟨h.channel.release (some c), h.taken, h.writer, h.returned,
      fun hmain => h.main (Finset.mem_of_mem_erase hmain)⟩
  | acceptEnds =>
    dsimp only [ServerRun.step]
    split
    · exact ⟨h.channel.release none, h.taken, h.writer, nofun,
        fun hmain => absurd rfl (Finset.ne_of_mem_erase hmain)⟩
    · exact h
  | write => exact h.write
  | joined =>
    dsimp only [ServerRun.step]
    split
    · next hc =>
      refine ⟨h.channel, h.taken, h.writer, fun _ => hc.2, fun hmain => ?_⟩
      rw [h.main hmain] at hc
      cases hc.1
    · exact h

theorem inv_start (w : TunWriter) (device : TunDevice) : Inv w device (.start device) :=
  ⟨Channel.inv_start _ none, rfl, rfl, nofun, fun _ => rfl⟩

theorem inv_runs (w : TunWriter) (device : TunDevice) (as : List RunAction) :
    Inv w device (run (ServerRun.step w) (.start device) as) :=
  inv_run_all (fun _ a h => h.step a) as _ (inv_start w device)

end ServerRun

end EzVpn

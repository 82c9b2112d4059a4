import Mathlib.Logic.Function.Basic
import RemoteControl.Ble.GattStep
import RemoteControl.Lib.Run

/-!
# What a subscriber of the error source hears (`gatt_notify.c`)

The notification that is due when a central turns ERRSRC on never goes out, because the current
string already counts as sent (`ErrSettled`); and a string that is new goes to the central of
`g_conn_id` alone, which need not be the one that has turned ERRSRC on. So a central hears of the
strings that are set while it is in reach (`GattServer.reaches`), and of no others: it is up to date
if the last of them is, as far as the payload goes, the current one (`errsrc_upToDate_iff`).
-/

namespace RemoteControl

open CString

/-! ## The property -/

/-- The link of a central: down; up; or with ERRSRC turned on by this central, when `since`
indications had been sent. `reached` is the last string that was set since then while the central
was in reach. -/
inductive EsLink where
  | down
  | up
  | on (since : Nat) (reached : Option Bytes)
  deriving DecidableEq

/-- The central has written to the descriptor of ERRSRC. -/
def EsLink.write (enabled : Bool) (sent : Nat) : EsLink → EsLink
  | .down => .down
  | .up => if enabled then .on sent none else .up
  | .on since reached => if enabled then .on since reached else .up

/-- Another string has been set. -/
def EsLink.set (inReach : Bool) (err : Bytes) : EsLink → EsLink
  | .on since reached => .on since (if inReach then some err else reached)
  | link => link

/-- A string that is set now is sent to this central. -/
def GattServer.reaches (connId : Nat) (g : GattServer) : Bool :=
  g.esNotifyEnabled && g.tx.connId == some connId

/-- The server, and the links. -/
structure EsWatch where
  server : GattServer
  link : Nat → EsLink

/-- An event. -/
def EsWatch.step (w : EsWatch) (ev : GattEv) : EsWatch :=
  let g := w.server.handle ev
  match ev with
  | .connect connId =>
    if w.server.tx.gattsIf.isNone then ⟨g, w.link⟩ else ⟨g, Function.update w.link connId .up⟩
  | .disconnect connId => ⟨g, Function.update w.link connId .down⟩
  | .cccErrsrc connId value =>
    let link := (w.link connId).write (GattServer.cccEnables value) w.server.sent.length
    ⟨g, Function.update w.link connId link⟩
  | _ =>
    if g.errsrc.err = w.server.errsrc.err then ⟨g, w.link⟩
    else ⟨g, fun connId => (w.link connId).set (w.server.reaches connId) g.errsrc.err⟩

/-- The indication is one of ERRSRC to this central. -/
def Indication.isErrsrcTo (connId : Nat) (i : Indication) : Bool :=
  i.char == .errsrc && i.connId == connId

/-- The ERRSRC indications to a central since some had been sent. -/
def GattServer.heard (connId since : Nat) (g : GattServer) : List Bytes :=
  ((g.sent.drop since).filter (·.isErrsrcTo connId)).map Indication.data

/-- Every central that is connected with ERRSRC turned on has been sent something since, and last
the current string, cut to the payload. -/
def UpToDate (w : EsWatch) : Prop :=
  ∀ connId since reached, w.link connId = .on since reached →
    (w.server.heard connId since).getLast? =
      some (w.server.errsrc.err.take w.server.tx.mtuPayload)

/-- Since such a central turned ERRSRC on, another string has been set while it was in reach, and
the last of these is the current one as far as the payload goes. -/
def SetInReach (w : EsWatch) : Prop :=
  ∀ connId since reached, w.link connId = .on since reached →
    ∃ err ∈ reached,
      err.take w.server.tx.mtuPayload = w.server.errsrc.err.take w.server.tx.mtuPayload

/-- An MTU event. -/
def GattEv.isMtu : GattEv → Bool
  | .mtu _ _ => true
  | _ => false

/-- The events that leave the payload alone. -/
abbrev EsEv := { ev : GattEv // ev.isMtu = false }

/-- After `gatt_server_init`. -/
def EsWatch.init (err : ErrText) (last : ErrSrc) (payload : Nat) : EsWatch :=
  ⟨.afterInit err.text last payload, fun _ => .down⟩

/-! ## What an event sends of the error source -/

section
variable {g : GattServer}

/-- A string goes out if it is new, and ERRSRC is on. -/
theorem GattServer.outgoing_errsrc_iff (g : GattServer) (ev : GattEv) (err : Bytes) :
    g.outgoing ev = some (.errsrc, err) ↔
      g.esNotifyEnabled = true ∧ (g.noted ev).errsrc.err = err ∧ g.errsrc.err ≠ err := by
  have hother : ∀ {c : Prop} [Decidable c] {char : IndicatedChar} {text : Bytes}, char ≠ .errsrc →
      (if c then some (char, text) else none) ≠ some (.errsrc, err) := by
    intro c _ char text hchar heq
    split at heq <;> cases heq
    exact hchar rfl
  cases ev with
  | setErrsrc s | setErrsrcEnum e =>
    simp only [outgoing, noted, Option.ite_none_right_eq_some, Option.some.injEq, Prod.mk.injEq,
      true_and]
    constructor
    · rintro ⟨⟨hon, hnew⟩, rfl⟩
      exact ⟨hon, rfl, hnew.symm⟩
    · rintro ⟨hon, rfl, hnew⟩
      exact ⟨⟨hon, hnew.symm⟩, rfl⟩
  | connect connId =>
    refine iff_of_false (fun heq => by cases heq) fun hand => hand.2.2 (hand.2.1 ▸ ?_)
    simp only [noted]
    split <;> rfl
  | cccAlert connId value | cccDht connId value text | status line | raiseAlert code detail =>
    exact iff_of_false (hother (by decide)) fun hand => hand.2.2 hand.2.1
  | registered | mtu | disconnect | cccTx | cccErrsrc =>
    exact iff_of_false (fun heq => by cases heq) fun hand => hand.2.2 hand.2.1

/-- **What a central hears of an event**: the string that it sets, if the central is in reach. -/
theorem ErrSettled.heard_outgoing (h : ErrSettled g) (ev : GattEv) (connId : Nat) :
    ((g.sends (g.outgoing ev)).filter (·.isErrsrcTo connId)).map Indication.data =
      if (g.handle ev).errsrc.err ≠ g.errsrc.err ∧ g.reaches connId = true then
        [(g.handle ev).errsrc.err.take g.tx.mtuPayload]
      else [] := by
  have hreaches : g.reaches connId = true ↔
      g.esNotifyEnabled = true ∧ g.link = some connId := by
    rw [GattServer.reaches, Bool.and_eq_true, beq_iff_eq, GattServer.link]
    refine and_congr_right fun _ => ⟨fun hconn => ?_, fun hlink => ?_⟩
    · obtain ⟨gattsIf, hif⟩ := Option.isSome_iff_exists.mp (h.registered (by rw [hconn]; rfl))
      rw [hif, hconn]
      rfl
    · obtain ⟨-, -, hconn⟩ := Option.bind_eq_some_iff.mp hlink
      exact hconn
  simp only [h.errsrc_handle, hreaches]
  by_cases hout : g.esNotifyEnabled = true ∧ (g.noted ev).errsrc.err ≠ g.errsrc.err
  · rw [(g.outgoing_errsrc_iff ev _).mpr ⟨hout.1, rfl, hout.2.symm⟩,
      GattServer.sends_some (by decide)]
    cases hlink : g.link with
    | none => simp
    | some connId' =>
      rcases eq_or_ne connId' connId with rfl | hne
      · simp [Indication.isErrsrcTo, hout]
      · simp [Indication.isErrsrcTo, hne]
  · have hnone : (g.sends (g.outgoing ev)).filter (·.isErrsrcTo connId) = [] := by
      refine List.filter_eq_nil_iff.mpr fun i hi hto => hout ?_
      cases hm : g.outgoing ev with
      | none =>
        rw [hm, GattServer.sends_none] at hi
        exact absurd hi List.not_mem_nil
      | some m =>
        rw [hm, GattServer.mem_sends_some] at hi
        rw [Indication.isErrsrcTo, Bool.and_eq_true, beq_iff_eq, hi.2.1] at hto
        obtain ⟨hon, herr, hnew⟩ := (g.outgoing_errsrc_iff ev m.2).mp (by rw [hm, ← hto.1])
        exact ⟨hon, fun hsame => hnew (hsame.symm.trans herr)⟩
    rw [hnone, if_neg fun hand => hout ⟨hand.2.1, hand.1⟩]
    rfl

end

/-! ## What a central has heard -/

/-- A central has heard the strings that were set while it was in reach. -/
structure EsInv (w : EsWatch) : Prop where
  settled : ErrSettled w.server
  heard : ∀ connId since reached, w.link connId = .on since reached →
    since ≤ w.server.sent.length ∧ (w.server.heard connId since).getLast? =
      reached.map (·.take w.server.tx.mtuPayload)

/-- More indications. -/
theorem heard_append {g g' : GattServer} {new : List Indication} (connId : Nat) {since : Nat}
    (hsince : since ≤ g.sent.length) (hsent : g'.sent = g.sent ++ new) :
    g'.heard connId since =
      g.heard connId since ++ (new.filter (·.isErrsrcTo connId)).map Indication.data := by
  rw [GattServer.heard, GattServer.heard, hsent, List.drop_append_of_le_length hsince,
    List.filter_append, List.map_append]

section
variable {w : EsWatch}

/-- The payload stays. -/
theorem ErrSettled.mtuPayload (h : ErrSettled w.server) (ev : EsEv) :
    (w.server.handle ev).tx.mtuPayload = w.server.tx.mtuPayload := by
  obtain ⟨ev, hmtu⟩ := ev
  rw [h.mtuPayload_handle]
  cases ev with
  | mtu connId mtu => exact absurd hmtu (by simp [GattEv.isMtu])
  | _ => rfl

/-- An event that sets another string, or leaves it and the links as they are. -/
theorem EsInv.set (h : EsInv w) (ev : EsEv) {link : Nat → EsLink}
    (hlink : ∀ connId, link connId = w.link connId ∧
        (w.server.handle ev).errsrc.err = w.server.errsrc.err ∨
      link connId = (w.link connId).set (w.server.reaches connId) (w.server.handle ev).errsrc.err ∧
        (w.server.handle ev).errsrc.err ≠ w.server.errsrc.err) :
    EsInv ⟨w.server.handle ev, link⟩ := by
  refine ⟨h.settled.handle ev, fun connId since reached hon => ?_⟩
  change link connId = _ at hon
  have hsent := h.settled.sent_handle ev
  have hnews := h.settled.heard_outgoing ev connId
  have hgrow : ∀ {since : Nat}, since ≤ w.server.sent.length →
      since ≤ (w.server.handle ev).sent.length := fun hle => by
    rw [hsent, List.length_append]
    exact Nat.le_add_right_of_le hle
  rcases hlink connId with ⟨hkept, hsame⟩ | ⟨hset, hnew⟩
  · obtain ⟨hsince, hlast⟩ := h.heard connId since reached (hkept ▸ hon)
    rw [if_neg fun hand => hand.1 hsame] at hnews
    refine ⟨hgrow hsince, ?_⟩
    rw [heard_append connId hsince hsent, hnews, List.append_nil, hlast, h.settled.mtuPayload]
  · cases hold : w.link connId with
    | down | up => rw [hset, hold] at hon; cases hon
    | on since' reached' =>
      rw [hset, hold] at hon
      obtain ⟨rfl, rfl⟩ := EsLink.on.inj hon
      obtain ⟨hsince, hlast⟩ := h.heard connId since' reached' hold
      refine ⟨hgrow hsince, ?_⟩
      rw [heard_append connId hsince hsent, hnews, h.settled.mtuPayload]
      cases w.server.reaches connId
      · simpa using hlast
      · simp [hnew]

/-- An event that changes a link, and neither the string nor what is sent. -/
theorem EsInv.update (h : EsInv w) (ev : EsEv) (connId : Nat) {link : EsLink}
    (hsent : w.server.outgoing ev = none)
    (hlink : link = .down ∨ link = .up ∨ link = w.link connId ∨
      link = .on w.server.sent.length none) :
    EsInv ⟨w.server.handle ev, Function.update w.link connId link⟩ := by
  have hsame : (w.server.handle ev).sent = w.server.sent := by
    rw [h.settled.sent_handle, hsent, GattServer.sends_none, List.append_nil]
  have hkept : ∀ connId since reached, w.link connId = .on since reached →
      since ≤ (w.server.handle ev).sent.length ∧
        ((w.server.handle ev).heard connId since).getLast? =
          reached.map (·.take (w.server.handle ev).tx.mtuPayload) := by
    intro connId since reached hon
    rw [GattServer.heard, hsame, h.settled.mtuPayload]
    exact h.heard connId since reached hon
  refine ⟨h.settled.handle ev, fun connId' since reached hon => ?_⟩
  change Function.update w.link connId link connId' = _ at hon
  rw [Function.update_apply] at hon
  split at hon
  · rcases hlink with rfl | rfl | rfl | rfl
    · cases hon
    · cases hon
    · next heq => exact hkept connId' since reached (heq ▸ hon)
    · -- the notification that is due is suppressed
      obtain ⟨rfl, rfl⟩ := EsLink.on.inj hon
      refine ⟨Nat.le_of_eq (congrArg List.length hsame.symm), ?_⟩
      rw [GattServer.heard, hsame, List.drop_length]
      rfl
  · exact hkept connId' since reached hon

/-- What a write to the descriptor makes of a link. -/
theorem EsLink.write_cases (enabled : Bool) (sent : Nat) (link : EsLink) :
    link.write enabled sent = .down ∨ link.write enabled sent = .up ∨
      link.write enabled sent = link ∨ link.write enabled sent = .on sent none := by
  cases link <;> cases enabled <;> simp [EsLink.write]

/-- **The step lemma.** -/
theorem EsInv.step (h : EsInv w) (ev : EsEv) : EsInv (w.step ev) := by
  have hsets : ∀ ev : EsEv, EsInv
      (if (w.server.handle ev).errsrc.err = w.server.errsrc.err then ⟨w.server.handle ev, w.link⟩
      else ⟨w.server.handle ev, fun connId => (w.link connId).set (w.server.reaches connId)
        (w.server.handle ev).errsrc.err⟩) := by
    intro ev
    split
    · next hsame => exact h.set ev fun _ => .inl ⟨rfl, hsame⟩
    · next hnew => exact h.set ev fun _ => .inr ⟨rfl, hnew⟩
  obtain ⟨ev, hmtu⟩ := ev
  cases ev with
  | connect connId =>
    simp only [EsWatch.step]
    split
    · next hif =>
      refine h.set ⟨.connect connId, hmtu⟩ fun _ => .inl ⟨rfl, ?_⟩
      simp only [GattServer.handle, hif, if_true]
    · exact h.update ⟨.connect connId, hmtu⟩ connId rfl (.inr (.inl rfl))
  | disconnect connId => exact h.update ⟨.disconnect connId, hmtu⟩ connId rfl (.inl rfl)
  | cccErrsrc connId value =>
    exact h.update ⟨.cccErrsrc connId value, hmtu⟩ connId rfl (EsLink.write_cases _ _ _)
  | mtu connId mtu => exact absurd hmtu (by simp [GattEv.isMtu])
  | _ => exact hsets ⟨_, hmtu⟩

end

/-- No central is connected after `gatt_server_init`. -/
theorem esInv_init (err : ErrText) (last : ErrSrc) (payload : Nat) :
    EsInv (.init err last payload) :=
  ⟨errSettled_afterInit err last payload, fun _ _ _ hon => by cases hon⟩

/-- **What a subscriber hears.** After any error strings, connects, disconnects and writes to the
descriptors, on any number of links, every central that is connected with ERRSRC turned on is up to
date exactly if for each of them a string has been set in its reach, and the last one is the current
one as far as the payload goes. -/
theorem errsrc_upToDate_iff (err : ErrText) (last : ErrSrc) (payload : Nat) (evs : List EsEv) :
    let w := Run.exec EsWatch.step (.init err last payload) (evs.map Subtype.val)
    UpToDate w ↔ SetInReach w := by
  intro w
  have hinv : EsInv w := by
    have hrun : ∀ (evs : List EsEv) (w : EsWatch), EsInv w →
        EsInv (Run.exec EsWatch.step w (evs.map Subtype.val)) := by
      intro evs
      induction evs with
      | nil => exact fun _ h => h
      | cons ev evs ih => exact fun w h => ih (w.step ev) (h.step ev)
    exact hrun evs _ (esInv_init err last payload)
  have hone : ∀ connId since reached, w.link connId = .on since reached →
      ((w.server.heard connId since).getLast? =
          some (w.server.errsrc.err.take w.server.tx.mtuPayload) ↔
        ∃ err ∈ reached,
          err.take w.server.tx.mtuPayload = w.server.errsrc.err.take w.server.tx.mtuPayload) := by
    intro connId since reached hon
    rw [(hinv.heard connId since reached hon).2, Option.map_eq_some_iff]
    rfl
  constructor
  · exact fun h connId since reached hon => (hone _ _ _ hon).mp (h connId since reached hon)
  · exact fun h connId since reached hon => (hone _ _ _ hon).mpr (h connId since reached hon)

/-- A central connects and turns ERRSRC on. -/
def subscription : List EsEv :=
  [⟨.registered 3, rfl⟩, ⟨.connect 0, rfl⟩, ⟨.cccErrsrc 0 [1, 0], rfl⟩]

/-- Two centrals connect, the first of them turns ERRSRC on, and the string changes. -/
def earlierSubscription : List EsEv :=
  [⟨.registered 3, rfl⟩, ⟨.connect 0, rfl⟩, ⟨.connect 1, rfl⟩, ⟨.cccErrsrc 0 [1, 0], rfl⟩,
    ⟨.setErrsrcEnum .noAp, rfl⟩]

/-- The one central is sent nothing, and of the two the one that has not asked is told. -/
theorem errsrc_subscriber_silent :
    (let w := Run.exec EsWatch.step (.init noError .none 20) (subscription.map Subtype.val)
     w.link 0 = .on 0 none ∧ w.server.sent = [] ∧ ¬ UpToDate w) ∧
    (let w := Run.exec EsWatch.step (.init noError .none 20) (earlierSubscription.map Subtype.val)
     w.link 0 = .on 0 none ∧ w.link 1 = .up ∧
       w.server.sent = [⟨.errsrc, 1, lit "NO_AP"⟩] ∧ ¬ UpToDate w) := by
  constructor
  · intro w
    have hon : w.link 0 = .on 0 none := by decide
    have hsent : w.server.sent = [] := by decide
    refine ⟨hon, hsent, fun h => ?_⟩
    have hlast := h 0 0 none hon
    rw [GattServer.heard, hsent] at hlast
    exact absurd hlast (Option.some_ne_none _).symm
  · intro w
    have hon : w.link 0 = .on 0 none := by decide
    have hsent : w.server.sent = [⟨.errsrc, 1, lit "NO_AP"⟩] := by decide
    refine ⟨hon, by decide, hsent, fun h => ?_⟩
    have hlast := h 0 0 none hon
    rw [GattServer.heard, hsent] at hlast
    exact absurd hlast (Option.some_ne_none _).symm

end RemoteControl

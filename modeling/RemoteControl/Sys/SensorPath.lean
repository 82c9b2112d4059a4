import RemoteControl.Sys.DhtWire

/-!
# From the sensor to the reply (`dht.c`, `cmd_router.c`)

`Sampler` is the task that reads the sensor, `DhtWire` what it reads off the line, and `RouterWorld`
the router that answers `DHT?` and sets the stream. `SensorWorld` is the three of them: the router
takes its samples by `dht_read_latest`, and its settings are those of the sampler. `reads` is not in
the code: it is what each `dht_hw_read` has made of the line, and at which tick.

So an answer to `DHT?` is about the last read that the task has finished (`dht_replies_latest`). The
command itself reads nothing: as long as the router has turned no stream on, the answer is `DHT NA`
(`dht_silent_without_stream`).
-/

namespace RemoteControl

open CString

/-! ## The samples -/

/-- `dht_read_latest`; the age is a `uint32_t`, of ticks of 10 ms. -/
def dhtReadLatest (w : Sampler) : DhtSample :=
  { w.last with ageMs := (w.tick - w.lastTick) * 10 % 2 ^ 32 }

/-- The bits that the transaction under way finds on the line. -/
def Sampler.busBits (sig : Nat → Bool) (w : Sampler) : Option DhtRaw :=
  match w.pos with
  | .bus _ since => dhtBitsAt sig since
  | _ => none

/-- The result of the `dht_hw_read` that a step of the task ends. -/
def Sampler.finishes (bits : Option DhtRaw) (w : Sampler) : Option (Option DhtRaw) :=
  match w.pos with
  | .bus _ since => if w.now < since + 18010 then none else (dhtReadRawBytes bits).map some
  | .pause n until' => if w.now < until' ∨ n + 1 < dhtRetries then none else some none
  | _ => none

/-! ## The three together -/

/-- The sampler, the router with the connections, and the reads so far. -/
structure SensorWorld where
  sampler : Sampler
  bus : RouterWorld
  reads : List (Nat × Option DhtRaw)

/-- Time passes; the task is notified, or goes on with this signal on the line; something happens
around the bus; or the router replies. -/
inductive SensorEv where
  | wait (us : Nat)
  | giveNotify
  | run (sig : Nat → Bool)
  | bus (ev : RouterEv)
  | reply

/-- After `dht_init`, `dht_start` and `cmd_router_start`. -/
def SensorWorld.boot (cfgPeriodMs : Nat) : SensorWorld :=
  ⟨.init cfgPeriodMs, .boot (Sampler.init cfgPeriodMs).dht, []⟩

/-- One step. -/
def SensorWorld.step (w : SensorWorld) : SensorEv → SensorWorld
  | .wait us => { w with sampler := w.sampler.step (.wait us) }
  | .giveNotify => { w with sampler := w.sampler.step .giveNotify }
  | .run sig =>
    let bits := w.sampler.busBits sig
    { w with
      sampler := w.sampler.step (.run bits)
      reads := w.reads ++ (w.sampler.finishes bits).toList.map (w.sampler.tick, ·) }
  | .bus ev =>
    match ev with
    | .reply _ => w
    | _ => { w with bus := w.bus.step ev }
  | .reply =>
    let bus := w.bus.step (.reply (dhtReadLatest w.sampler))
    { w with bus := bus, sampler := { w.sampler with dht := bus.dht } }

/-- What a read says: nothing before the first one, and nothing if it failed; else the clamped
values, with the time since. -/
def SensorWorld.reading (w : SensorWorld) : Bytes :=
  match w.reads.getLast? with
  | none | some (_, none) => lit "DHT NA\n"
  | some (t, some raw) =>
    dhtLine ⟨true, (dhtDecode raw).1, (dhtDecode raw).2, (w.sampler.tick - t) * 10 % 2 ^ 32⟩

/-- The checksum of a transaction is right, and the values it gives are in the range of the sensor,
or 0 for a byte out of its range. -/
structure SoundRead (raw : DhtRaw) : Prop where
  checksum : raw.rh + raw.rhDec + raw.temp + raw.tempDec = raw.sum
  temp_le : (dhtDecode raw).1 ≤ 50
  rh_range : (dhtDecode raw).2 = 0 ∨ 20 ≤ (dhtDecode raw).2 ∧ (dhtDecode raw).2 ≤ 90

/-- The statics of the sampler are those of the last read, and the settings those of the router. -/
structure SensorWorld.Inv (w : SensorWorld) : Prop where
  dht : w.sampler.dht = w.bus.dht
  last : w.sampler.last = dhtSample ((w.reads.getLast?.map Prod.snd).getD none)
  tick : w.sampler.lastTick = (w.reads.getLast?.map Prod.fst).getD 0
  sound : ∀ t raw, (t, some raw) ∈ w.reads → SoundRead raw

section
variable {w : SensorWorld}

/-- What `dht_read_raw_bytes` accepts is sound. -/
theorem soundRead_of_accepted {bits : Option DhtRaw} {raw : DhtRaw}
    (h : dhtReadRawBytes bits = some raw) : SoundRead raw := by
  obtain ⟨-, hsum⟩ := Option.filter_eq_some_iff.mp h
  refine ⟨by simpa using hsum, ?_, ?_⟩
  · simp only [dhtDecode]
    split <;> omega
  · simp only [dhtDecode]
    split <;> omega

/-- **A step of the task** leaves the sample, or ends a read with it. -/
theorem Sampler.run_cases (bits : Option DhtRaw) (w : Sampler) :
    (w.run bits).dht = w.dht ∧
      ((w.finishes bits = none ∧ (w.run bits).last = w.last ∧
          (w.run bits).lastTick = w.lastTick) ∨
        ∃ r, w.finishes bits = some r ∧ (w.run bits).last = dhtSample r ∧
          (w.run bits).lastTick = w.tick ∧ ∀ raw, r = some raw → SoundRead raw) := by
  cases hpos : w.pos with
  | top => simp only [run, finishes, hpos, true_or, and_self]
  | parked =>
    have hnone : w.finishes bits = none := by simp only [finishes, hpos]
    simp only [run, hpos]
    split <;> exact ⟨rfl, .inl ⟨hnone, rfl, rfl⟩⟩
  | attempt n => simp only [run, finishes, hpos, true_or, and_self]
  | bus n since =>
    simp only [run, finishes, hpos]
    split
    · exact ⟨rfl, .inl ⟨rfl, rfl, rfl⟩⟩
    · cases hraw : dhtReadRawBytes bits with
      | none => exact ⟨rfl, .inl ⟨rfl, rfl, rfl⟩⟩
      | some raw =>
        refine ⟨rfl, .inr ⟨some raw, rfl, rfl, rfl, ?_⟩⟩
        rintro _ ⟨⟩
        exact soundRead_of_accepted hraw
  | pause n until' =>
    simp only [run, finishes, hpos]
    by_cases hnow : w.now < until'
    · rw [if_pos hnow, if_pos (.inl hnow)]
      exact ⟨rfl, .inl ⟨rfl, rfl, rfl⟩⟩
    · rw [if_neg hnow]
      by_cases hmore : n + 1 < dhtRetries
      · rw [if_pos hmore, if_pos (.inr hmore)]
        exact ⟨rfl, .inl ⟨rfl, rfl, rfl⟩⟩
      · rw [if_neg hmore, if_neg (by simp [hnow, hmore])]
        refine ⟨rfl, .inr ⟨none, rfl, rfl, rfl, ?_⟩⟩
        rintro _ ⟨⟩
  | asleep wake =>
    have hnone : w.finishes bits = none := by simp only [finishes, hpos]
    simp only [run, hpos]
    split <;> exact ⟨rfl, .inl ⟨hnone, rfl, rfl⟩⟩

/-- What is not the router's does not touch the settings. -/
theorem RouterWorld.dht_step {w : RouterWorld} {ev : RouterEv} (h : ∀ s, ev ≠ .reply s) :
    (w.step ev).dht = w.dht := by
  cases ev with
  | reply s => exact absurd rfl (h s)
  | accept | bleConnect | bleStatus => rfl
  | tcpCommand i cmd u32 | bleCommand n cmd u32 =>
    simp only [RouterWorld.step]
    split
    · unfold RouterWorld.send
      split <;> rfl
    · rfl
  | tcpLeave i | tcpEnd i | bleDisconnect n | bleNotify n on | bleRead n | receive =>
    simp only [RouterWorld.step]
    split <;> rfl

/-- **The step lemma.** -/
theorem SensorWorld.Inv.step (h : w.Inv) (ev : SensorEv) : (w.step ev).Inv := by
  cases ev with
  | wait us => exact ⟨h.dht, h.last, h.tick, h.sound⟩
  | giveNotify => exact ⟨h.dht, h.last, h.tick, h.sound⟩
  | run sig =>
    obtain ⟨hdht, ⟨hnone, hlast, htick⟩ | ⟨r, hsome, hlast, htick, hsound⟩⟩ :=
      Sampler.run_cases (w.sampler.busBits sig) w.sampler
    · have hreads : (w.step (.run sig)).reads = w.reads := by
        simp only [SensorWorld.step, hnone, Option.toList_none, List.map_nil, List.append_nil]
      refine ⟨hdht.trans h.dht, ?_, ?_, ?_⟩
      · rw [hreads]
        exact hlast.trans h.last
      · rw [hreads]
        exact htick.trans h.tick
      · rw [hreads]
        exact h.sound
    · have hreads : (w.step (.run sig)).reads = w.reads ++ [(w.sampler.tick, r)] := by
        simp only [SensorWorld.step, hsome, Option.toList_some, List.map_cons, List.map_nil]
      refine ⟨hdht.trans h.dht, ?_, ?_, ?_⟩
      · rw [hreads, List.getLast?_concat]
        exact hlast
      · rw [hreads, List.getLast?_concat]
        exact htick
      · rw [hreads]
        intro t raw hmem
        rcases List.mem_append.mp hmem with hmem | hmem
        · exact h.sound t raw hmem
        · rw [List.mem_singleton, Prod.mk.injEq] at hmem
          exact hsound raw hmem.2.symm
  | bus ev =>
    cases ev with
    | reply s => exact h
    | _ =>
      refine ⟨h.dht.trans (RouterWorld.dht_step ?_).symm, h.last, h.tick, h.sound⟩
      rintro s ⟨⟩
  | reply => exact ⟨rfl, h.last, h.tick, h.sound⟩

theorem SensorWorld.inv_boot (cfgPeriodMs : Nat) : (SensorWorld.boot cfgPeriodMs).Inv :=
  ⟨rfl, rfl, rfl, nofun⟩

/-- What the router says is what the last read says. -/
theorem SensorWorld.Inv.dhtLine (h : w.Inv) : dhtLine (dhtReadLatest w.sampler) = w.reading := by
  unfold dhtReadLatest reading
  rw [h.last, h.tick]
  cases w.reads.getLast? with
  | none => rfl
  | some tr =>
    obtain ⟨t, r⟩ := tr
    cases r <;> rfl

end

/-- The router does not run a `CMD_DHT_STREAM_ON`. -/
def SensorWorld.RunsNoStream (w : SensorWorld) (ev : SensorEv) : Prop :=
  ev = .reply → ∀ m ∈ w.bus.handling, m.cmd ≠ .dhtStreamOn

/-- The task is parked, and the stream is off. -/
structure SensorWorld.Silent (w : SensorWorld) : Prop extends w.Inv where
  off : w.bus.dht.streamOn = false
  parked : w.sampler.pos = .top ∨ w.sampler.pos = .parked
  reads_nil : w.reads = []
  starts_nil : w.sampler.starts = []

section
variable {w : SensorWorld}

/-- **The step lemma.** -/
theorem SensorWorld.Silent.step (h : w.Silent) {ev : SensorEv} (hev : w.RunsNoStream ev) :
    (w.step ev).Silent := by
  have hinv := h.toInv.step ev
  cases ev with
  | wait us => exact ⟨hinv, h.off, h.parked, h.reads_nil, h.starts_nil⟩
  | giveNotify => exact ⟨hinv, h.off, h.parked, h.reads_nil, h.starts_nil⟩
  | run sig =>
    have hoff : w.sampler.dht.streamOn = false := by rw [h.dht, h.off]
    rcases h.parked with hpos | hpos
    · refine ⟨hinv, h.off, .inr ?_, ?_, ?_⟩
      · simp only [SensorWorld.step, Sampler.step, Sampler.run, hpos, hoff, Bool.false_eq_true,
          if_false]
      · simp only [SensorWorld.step, Sampler.finishes, hpos, h.reads_nil, Option.toList_none,
          List.map_nil, List.append_nil]
      · simp only [SensorWorld.step, Sampler.step, Sampler.run, hpos, h.starts_nil]
    · have hpark : (w.sampler.step (.run (w.sampler.busBits sig))).starts = [] ∧
          ((w.sampler.step (.run (w.sampler.busBits sig))).pos = .top ∨
            (w.sampler.step (.run (w.sampler.busBits sig))).pos = .parked) := by
        simp only [Sampler.step, Sampler.run, hpos]
        split
        · exact ⟨h.starts_nil, .inl rfl⟩
        · exact ⟨h.starts_nil, .inr hpos⟩
      refine ⟨hinv, h.off, hpark.2, ?_, hpark.1⟩
      simp only [SensorWorld.step, Sampler.finishes, hpos, h.reads_nil, Option.toList_none,
        List.map_nil, List.append_nil]
  | bus ev =>
    cases ev with
    | reply s => exact h
    | _ =>
      refine ⟨hinv, ?_, h.parked, h.reads_nil, h.starts_nil⟩
      refine (congrArg Dht.streamOn (RouterWorld.dht_step ?_)).trans h.off
      rintro s ⟨⟩
  | reply =>
    have hoff : (w.bus.step (.reply (dhtReadLatest w.sampler))).dht.streamOn = false := by
      cases hh : w.bus.handling with
      | none => simp only [RouterWorld.step, hh, h.off]
      | some m =>
        have hne : m.cmd ≠ .dhtStreamOn := hev rfl m hh
        simp only [RouterWorld.step, RouterWorld.cmdReply, hh, cmdRouterRun]
        cases hcmd : m.cmd with
        | dhtStreamOn => exact absurd hcmd hne
        | dhtStreamOff => rfl
        | ledOn | ledOff | dhtQuery | dhtState => exact h.off
    exact ⟨hinv, hoff, h.parked, h.reads_nil, h.starts_nil⟩

end

/-- **`DHT?` reads nothing.** In every run in which the router runs no `DHTSTREAM on`, whatever is
posted, no transaction starts, and every answer to `DHT?` is `DHT NA`. -/
theorem dht_silent_without_stream (cfgPeriodMs : Nat) (evs : List SensorEv)
    (hrun : Run.Along SensorWorld.step SensorWorld.RunsNoStream (.boot cfgPeriodMs) evs) :
    (Run.exec SensorWorld.step (.boot cfgPeriodMs) evs).sampler.starts = [] ∧
    Run.Along SensorWorld.step
      (fun w ev => ev = .reply → ∀ m ∈ w.bus.handling, m.cmd = .dhtQuery →
        (w.step ev).bus = { w.bus with handling := none }.cmdReply m (lit "DHT NA\n"))
      (.boot cfgPeriodMs) evs := by
  have hboot : (SensorWorld.boot cfgPeriodMs).Silent :=
    ⟨SensorWorld.inv_boot cfgPeriodMs, rfl, .inl rfl, rfl, rfl⟩
  refine ⟨(hrun.exec_inv hboot fun _ _ h hev => h.step hev).starts_nil, ?_⟩
  refine hrun.mono hboot (fun _ _ h hev => h.step hev) ?_
  rintro w _ h - rfl m hm hcmd
  have hreading : w.reading = lit "DHT NA\n" := by
    rw [SensorWorld.reading, h.reads_nil]
    rfl
  rw [Option.mem_def] at hm
  simp only [SensorWorld.step, RouterWorld.step, hm, hcmd, cmdRouterRun, h.toInv.dhtLine, hreading]

/-- A client asks once, and for a stream that the router does not come to. -/
def askOnce : List SensorEv :=
  [.bus .accept, .run fun _ => true, .bus (.tcpCommand 0 .dhtQuery 0), .bus .receive,
    .bus (.tcpCommand 0 .dhtStreamOn 500), .reply, .bus .receive]

theorem dht_silent_without_stream_once :
    (Run.exec SensorWorld.step (.boot 2000) askOnce).bus.delivered = [(.tcp 0, lit "DHT NA\n")] ∧
      (Run.exec SensorWorld.step (.boot 2000) askOnce).sampler.starts = [] := by
  refine ⟨by decide, (dht_silent_without_stream 2000 askOnce ?_).1⟩
  refine ⟨nofun, nofun, nofun, nofun, nofun, fun _ m hm => ?_, nofun, trivial⟩
  cases hm
  decide

end RemoteControl

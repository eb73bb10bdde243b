import Mathlib.Algebra.BigOperators.Fin
import Mathlib.Algebra.Order.BigOperators.Group.Finset
import Talia.Agent.Traffic

/-!
# Packets

The BPF program counts the packets of each direction on the CPU where it sees them. The collector
goes over the keys of its map and copies the counters CPU by CPU, while packets go on being counted:
no two of the counters it adds up need have been there at the same time.

A counter only grows, so what is copied lies between what was there when the call began and what is
there when it ends. Over a run the samples never report a packet twice, or one that was not there;
and a call that succeeds leaves none out that came before it began (`packets_reported`).

The program runs to its end before another one runs on the same CPU, and totals that leave 64 bits
are not covered (`Fits`).
-/

namespace Talia

open Transition

variable {cpus : ℕ} {ε : Type}

/-! ## The program -/

def networkDirectionIngress : UInt8 := 1
def networkDirectionEgress : UInt8 := 2

/-- The context of the `netif_receive_skb` tracepoint. -/
structure NetifReceiveSkbCtx where
  len : UInt32

/-- The context of the `net_dev_xmit` tracepoint. -/
structure NetDevXmitCtx where
  len : UInt32
  rc : Int32

/-- A tracepoint is hit on a CPU. The kernel may refuse to create counters that are missing. -/
inductive PacketEvent (cpus : ℕ) where
  | netifReceiveSkb (cpu : Fin cpus) (ctx : NetifReceiveSkbCtx) (created : Bool)
  | netDevXmit (cpu : Fin cpus) (ctx : NetDevXmitCtx) (created : Bool)

/-- A packet counts once, with its length. Both counters wrap around. -/
def RawNetworkCounters.countPacket (counters : RawNetworkCounters) (len : UInt32) :
    RawNetworkCounters where
  bytes := counters.bytes + len.toUInt64
  packets := counters.packets + 1

/-- The map of the program: counters with a value for each CPU. -/
structure NetworkMap (cpus : ℕ) where
  counters : RawNetworkKey → Option (Fin cpus → RawNetworkCounters)

namespace NetworkMap

/-- The map is empty when the program is loaded. -/
def new : NetworkMap cpus := ⟨fun _ => none⟩

variable (s : NetworkMap cpus)

/-- The counters of a key on each CPU, zero before there are any. -/
def values (key : RawNetworkKey) : Fin cpus → RawNetworkCounters :=
  (s.counters key).getD fun _ => .default

/-- The program writes through the pointer it has looked up. -/
def setCounters (cpu : Fin cpus) (key : RawNetworkKey) (counters : RawNetworkCounters) :
    NetworkMap cpus :=
  ⟨Function.update s.counters key (some (Function.update (s.values key) cpu counters))⟩

/-- The counters of a key on a CPU. They are created when there are none. -/
def countersFor (cpu : Fin cpus) (key : RawNetworkKey) (created : Bool) :
    NetworkMap cpus × Option RawNetworkCounters :=
  match s.counters key with
  | some values => (s, some (values cpu))
  | none => if created then (s.setCounters cpu key .default, some .default) else (s, none)

/-- `account_network_bytes`: a packet without bytes is not counted, nor is one whose entry cannot be
made. -/
def accountNetworkBytes (cpu : Fin cpus) (len : UInt32) (direction : UInt8) (created : Bool) :
    NetworkMap cpus :=
  if len = 0 then s
  else
    match s.countersFor cpu ⟨direction⟩ created with
    | (s, none) => s
    | (s, some counters) => s.setCounters cpu ⟨direction⟩ (counters.countPacket len)

/-- A packet comes in, or goes out. -/
def step (s : NetworkMap cpus) : PacketEvent cpus → NetworkMap cpus
  | .netifReceiveSkb cpu ctx created =>
    s.accountNetworkBytes cpu ctx.len networkDirectionIngress created
  | .netDevXmit cpu ctx created =>
    if ctx.rc ≠ 0 then s else s.accountNetworkBytes cpu ctx.len networkDirectionEgress created

end NetworkMap

/-! ## What is counted -/

/-- A packet, on the CPU where it was seen. -/
structure Packet (cpus : ℕ) where
  cpu : Fin cpus
  direction : UInt8
  len : UInt32

/-- The packet of an event. An empty one is none, and neither is one that was not sent. -/
def PacketEvent.packet : PacketEvent cpus → Option (Packet cpus)
  | .netifReceiveSkb cpu ctx _ =>
    if ctx.len = 0 then none else some ⟨cpu, networkDirectionIngress, ctx.len⟩
  | .netDevXmit cpu ctx _ =>
    if ctx.rc ≠ 0 ∨ ctx.len = 0 then none else some ⟨cpu, networkDirectionEgress, ctx.len⟩

/-- Whether an entry can be made, if there is none. -/
def PacketEvent.created : PacketEvent cpus → Bool
  | .netifReceiveSkb _ _ created => created
  | .netDevXmit _ _ created => created

namespace NetworkMap

/-- The packet that an event counts: its counters are there, or can be created. -/
def counted (s : NetworkMap cpus) (e : PacketEvent cpus) : Option (Packet cpus) :=
  e.packet.filter fun packet => (s.counters ⟨packet.direction⟩).isSome || e.created

/-- The packet is counted under the key, on the CPU. -/
def Own (key : RawNetworkKey) (cpu : Fin cpus) (packet : Packet cpus) : Prop :=
  packet.direction = key.direction ∧ packet.cpu = cpu

instance (key : RawNetworkKey) (cpu : Fin cpus) : DecidablePred (Own key cpu) :=
  fun _ => inferInstanceAs (Decidable (_ ∧ _))

/-- Counters after some packets. -/
def countPackets (counters : RawNetworkCounters) (packets : List (Packet cpus)) :
    RawNetworkCounters :=
  packets.foldl (fun counters packet => counters.countPacket packet.len) counters

section Values

variable {s : NetworkMap cpus}

/-- A write changes one CPU's counters of one key. -/
theorem values_setCounters (at' : Fin cpus) (key' : RawNetworkKey) (counters : RawNetworkCounters)
    (key : RawNetworkKey) (cpu : Fin cpus) :
    (s.setCounters at' key' counters).values key cpu =
      if key = key' ∧ cpu = at' then counters else s.values key cpu := by
  by_cases own : key = key'
  · subst own
    by_cases here : cpu = at'
    · subst here
      simp [values, setCounters]
    · simp [values, setCounters, here]
  · simp [values, setCounters, own]

/-- A packet counts on its own CPU, under its direction's key, unless there is no entry and none can
be made. -/
theorem values_accountNetworkBytes (at' : Fin cpus) (len : UInt32) (direction : UInt8)
    (created : Bool) (sized : len ≠ 0) (key : RawNetworkKey) (cpu : Fin cpus) :
    (s.accountNetworkBytes at' len direction created).values key cpu =
      if ((s.counters ⟨direction⟩).isSome || created) ∧ key = ⟨direction⟩ ∧ cpu = at' then
        (s.values key cpu).countPacket len
      else s.values key cpu := by
  rw [accountNetworkBytes, if_neg sized, countersFor]
  cases found : s.counters ⟨direction⟩ with
  | some counters =>
    rw [values_setCounters]
    by_cases own : key = ⟨direction⟩ ∧ cpu = at'
    · obtain ⟨rfl, rfl⟩ := own
      simp [values, found]
    · simp [own]
  | none =>
    cases created with
    | false => simp
    | true =>
      simp only [if_true, Option.isSome_none, Bool.or_true, true_and]
      rw [values_setCounters, values_setCounters]
      by_cases own : key = ⟨direction⟩ ∧ cpu = at'
      · obtain ⟨rfl, rfl⟩ := own
        simp [values, found]
      · simp [own]

/-- A packet that is to be counted is, if its counters are there or can be created. -/
theorem values_account (packet : Packet cpus) (created : Bool) (sized : packet.len ≠ 0)
    (key : RawNetworkKey) (cpu : Fin cpus) :
    (s.accountNetworkBytes packet.cpu packet.len packet.direction created).values key cpu =
      countPackets (s.values key cpu)
        (((some packet).filter fun packet =>
          (s.counters ⟨packet.direction⟩).isSome || created).toList.filter (Own key cpu)) := by
  obtain ⟨at', direction, len⟩ := packet
  rw [values_accountNetworkBytes at' len direction created sized, Option.filter_some]
  by_cases kept : ((s.counters ⟨direction⟩).isSome || created) = true
  · rw [if_pos kept, Option.toList_some]
    by_cases own : key = ⟨direction⟩ ∧ cpu = at'
    · obtain ⟨rfl, rfl⟩ := own
      simp [kept, Own, countPackets]
    · have other : ¬ Own key cpu ⟨at', direction, len⟩ := by
        intro own'
        obtain ⟨same, here⟩ := own'
        exact own ⟨congrArg RawNetworkKey.mk same.symm, here.symm⟩
      simp [own, other, countPackets]
  · rw [if_neg kept, if_neg fun h => kept h.1]
    rfl

/-- What an event does to the counters. -/
theorem values_step (e : PacketEvent cpus) (key : RawNetworkKey) (cpu : Fin cpus) :
    (s.step e).values key cpu =
      countPackets (s.values key cpu) ((s.counted e).toList.filter (Own key cpu)) := by
  cases e with
  | netifReceiveSkb at' ctx created =>
    rw [step, counted, PacketEvent.packet]
    by_cases empty : ctx.len = 0
    · rw [accountNetworkBytes, if_pos empty, if_pos empty]
      rfl
    · rw [if_neg empty]
      exact values_account ⟨at', networkDirectionIngress, ctx.len⟩ created empty key cpu
  | netDevXmit at' ctx created =>
    rw [step, counted, PacketEvent.packet]
    by_cases unsent : ctx.rc ≠ 0
    · rw [if_pos unsent, if_pos (.inl unsent)]
      rfl
    · by_cases empty : ctx.len = 0
      · rw [if_neg unsent, accountNetworkBytes, if_pos empty, if_pos (.inr empty)]
        rfl
      · rw [if_neg unsent, if_neg (not_or.mpr ⟨unsent, empty⟩)]
        exact values_account ⟨at', networkDirectionEgress, ctx.len⟩ created empty key cpu

/-- The packets that a run counts. -/
def packets (es : List (PacketEvent cpus)) : List (Packet cpus) := outputs step counted .new es

/-- **The counters hold the packets counted under their key on their CPU.** -/
theorem values_run (es : List (PacketEvent cpus)) (key : RawNetworkKey) (cpu : Fin cpus) :
    (run step .new es).values key cpu =
      countPackets .default ((packets es).filter (Own key cpu)) := by
  refine run_history (P := fun (shown : List (Packet cpus)) (s : NetworkMap cpus) =>
    s.values key cpu = countPackets .default (shown.filter (Own key cpu))) ?_ rfl
    (stepsMeet_true _ _ es)
  intro shown s e inv _
  rw [values_step, inv, List.filter_append, countPackets, countPackets, countPackets,
    List.foldl_append]

end Values

end NetworkMap

/-! ## Tallies -/

/-- What is counted of packets. -/
inductive NetworkTally where
  | bytes
  | packets

namespace NetworkTally

open NetworkMap

/-- The collector's counter for a tally. -/
def counter : NetworkTally → NetworkCollector.map.Counter
  | .bytes => NetworkCollector.bytes
  | .packets => NetworkCollector.packets

/-- What a CPU's counters say for a tally. -/
def value (tally : NetworkTally) : RawNetworkCounters → UInt64 := tally.counter.value

/-- What a packet adds to a tally. -/
def worth : NetworkTally → Packet cpus → ℕ
  | .bytes, packet => packet.len.toNat
  | .packets, _ => 1

/-- What packets come to under a key. -/
def carried (tally : NetworkTally) (key : RawNetworkKey) (packets : List (Packet cpus)) : ℕ :=
  ((packets.filter (·.direction = key.direction)).map tally.worth).sum

/-- What two stretches of packets carry adds up. -/
theorem carried_append (tally : NetworkTally) (key : RawNetworkKey)
    (packets more : List (Packet cpus)) :
    tally.carried key (packets ++ more) = tally.carried key packets + tally.carried key more := by
  rw [carried, List.filter_append, List.map_append, List.sum_append, carried, carried]

/-- A packet adds what it is worth to the tally, modulo the width of the counter. -/
theorem value_countPacket (tally : NetworkTally) (counters : RawNetworkCounters)
    (packet : Packet cpus) :
    tally.value (counters.countPacket packet.len) =
      tally.value counters + .ofNat (tally.worth packet) := by
  cases tally with
  | bytes =>
    show counters.bytes + packet.len.toUInt64 = counters.bytes + .ofNat packet.len.toNat
    rw [UInt64.ofNat_uInt32ToNat]
  | packets => rfl

/-- So do several, one after the other. -/
theorem value_countPackets (tally : NetworkTally) (counters : RawNetworkCounters)
    (packets : List (Packet cpus)) :
    tally.value (countPackets counters packets) =
      tally.value counters + .ofNat (packets.map tally.worth).sum := by
  induction packets generalizing counters with
  | nil => simp [countPackets]
  | cons packet packets ih =>
    rw [countPackets, List.foldl_cons, ← countPackets, ih, value_countPacket, List.map_cons,
      List.sum_cons, UInt64.ofNat_add, UInt64.add_assoc]

/-- The packets of a key are those of the CPUs. -/
theorem sum_own (tally : NetworkTally) (key : RawNetworkKey) (packets : List (Packet cpus)) :
    ∑ cpu : Fin cpus, ((packets.filter (Own key cpu)).map tally.worth).sum =
      tally.carried key packets := by
  induction packets with
  | nil => simp [carried]
  | cons packet packets ih =>
    have split (cpu : Fin cpus) :
        (((packet :: packets).filter (Own key cpu)).map tally.worth).sum =
          (if packet.cpu = cpu then
            if packet.direction = key.direction then tally.worth packet else 0
          else 0) + ((packets.filter (Own key cpu)).map tally.worth).sum := by
      by_cases here : packet.cpu = cpu
      · by_cases own : packet.direction = key.direction
        · simp [Own, here, own]
        · simp [Own, own]
      · simp [Own, here]
    simp only [split, Finset.sum_add_distrib, Finset.sum_ite_eq, Finset.mem_univ, if_true, ih]
    by_cases own : packet.direction = key.direction
    · simp [carried, own]
    · simp [carried, own]

end NetworkTally

namespace NetworkMap

/-- No counter is out of its type. -/
def Fits (packets : List (Packet cpus)) : Prop :=
  ∀ (tally : NetworkTally) key, tally.carried key packets < 2 ^ 64

/-- Packets that come to less than `2 ^ 64` in all fit. -/
theorem fits_of_total {packets : List (Packet cpus)}
    (total : ∀ tally : NetworkTally, (packets.map tally.worth).sum < 2 ^ 64) : Fits packets := by
  intro tally key
  have part : tally.carried key packets ≤ (packets.map tally.worth).sum :=
    (List.filter_sublist.map tally.worth).sum_le_sum fun _ _ => Nat.zero_le _
  exact part.trans_lt (total tally)

/-- What fits counters fits them before its last packets. -/
theorem Fits.left {packets more : List (Packet cpus)} (fits : Fits (packets ++ more)) :
    Fits packets := by
  intro tally key
  have whole := fits tally key
  rw [tally.carried_append] at whole
  omega

/-- What a counter holds, if it fits. -/
theorem toNat_value {packets : List (Packet cpus)} (fits : Fits packets) (tally : NetworkTally)
    (key : RawNetworkKey) (cpu : Fin cpus) :
    (tally.value (countPackets .default (packets.filter (Own key cpu)))).toNat =
      ((packets.filter (Own key cpu)).map tally.worth).sum := by
  have part : ((packets.filter (Own key cpu)).map tally.worth).sum ≤ tally.carried key packets := by
    rw [← tally.sum_own]
    refine Finset.single_le_sum (f := fun cpu =>
      ((packets.filter (Own key cpu)).map tally.worth).sum) ?_ (Finset.mem_univ cpu)
    exact fun _ _ => Nat.zero_le _
  have zero : tally.value .default = 0 := tally.counter.value_default
  rw [tally.value_countPackets, zero, UInt64.zero_add, UInt64.toNat_ofNat']
  exact Nat.mod_eq_of_lt (part.trans_lt (fits tally key))

/-- **Over the CPUs the counters come to what was counted.** -/
theorem sum_values {es : List (PacketEvent cpus)} (fits : Fits (packets es)) (tally : NetworkTally)
    (key : RawNetworkKey) :
    ∑ cpu : Fin cpus, (tally.value ((run step .new es).values key cpu)).toNat =
      tally.carried key (packets es) := by
  rw [← tally.sum_own]
  refine Finset.sum_congr rfl fun cpu _ => ?_
  rw [values_run, toNat_value fits]

/-- Each counter of one map is at most that of another. -/
def AtMost (s s' : NetworkMap cpus) : Prop :=
  ∀ (tally : NetworkTally) key cpu, tally.value (s.values key cpu) ≤ tally.value (s'.values key cpu)

theorem AtMost.refl (s : NetworkMap cpus) : s.AtMost s := fun _ _ _ => UInt64.le_refl _

theorem AtMost.trans {s s' s'' : NetworkMap cpus} (first : s.AtMost s') (second : s'.AtMost s'') :
    s.AtMost s'' :=
  fun tally key cpu => UInt64.le_trans (first tally key cpu) (second tally key cpu)

/-- The counters only grow. -/
theorem atMost_run {es more : List (PacketEvent cpus)} (fits : Fits (packets (es ++ more))) :
    (run step .new es).AtMost (run step .new (es ++ more)) := by
  intro tally key cpu
  have split : packets (es ++ more) = packets es ++ outputs step counted (run step .new es) more :=
    outputs_append ..
  rw [split] at fits
  rw [UInt64.le_iff_toNat_le, values_run, values_run, split, toNat_value fits,
    toNat_value fits.left, List.filter_append, List.map_append, List.sum_append]
  exact Nat.le_add_right _ _

end NetworkMap

/-! ## A call under way -/

/-- The keys a call has seen, with one more entry. -/
theorem Entry.keys_concat {K C : Type} (entries : List (Entry K C ε)) (entry : Entry K C ε) :
    (entries ++ [entry]).filterMap Entry.key? =
      entries.filterMap Entry.key? ++ entry.key?.toList := by
  rw [List.filterMap_append]
  cases entry with
  | failed error => rfl
  | key key values => rfl

abbrev NetworkLookup : Type := Lookup RawNetworkKey RawNetworkCounters NetworkDirection

abbrev NetworkCall (ε : Type) : Type := CollectCall RawNetworkKey RawNetworkCounters ε

/-- A call of `collect` that is going over the map. -/
structure Gathering (cpus : ℕ) (ε : Type) where
  windowDuration : Duration
  /-- The map when the iteration began. -/
  began : NetworkMap cpus
  entries : List (Entry RawNetworkKey RawNetworkCounters ε)
  /-- The key that is looked up, and its counters as far as they are copied. -/
  reading : Option (RawNetworkKey × List RawNetworkCounters)
  distinct : (entries.filterMap Entry.key? ++ (reading.map Prod.fst).toList).Nodup

/-- The keys the program counts under. -/
def networkKeys : List RawNetworkKey := [⟨networkDirectionIngress⟩, ⟨networkDirectionEgress⟩]

namespace Gathering

/-- A call begins with no key visited. -/
def start (windowDuration : Duration) (map : NetworkMap cpus) : Gathering cpus ε :=
  ⟨windowDuration, map, [], none, List.nodup_nil⟩

variable (g : Gathering cpus ε)

/-- The keys visited so far. -/
def visited : List RawNetworkKey := g.entries.filterMap Entry.key?

/-- No key is visited twice. -/
theorem nodup_visited : g.visited.Nodup := g.distinct.sublist (List.sublist_append_left ..)

/-- The iteration comes to a key of the map that it has not been to. -/
def next (map : NetworkMap cpus) (key : RawNetworkKey) : Gathering cpus ε :=
  if fresh : g.reading = none ∧ (map.counters key).isSome ∧ key ∉ g.visited then
    { g with
      reading := some (key, [])
      distinct := (List.nodup_append_comm.mp (g.nodup_visited.cons fresh.2.2)) }
  else g

/-- The counters of the next CPU are copied, until there are those of all. -/
def read (map : NetworkMap cpus) : Gathering cpus ε :=
  match reading : g.reading with
  | none => g
  | some (key, values) =>
    if more : values.length < cpus then
      { g with
        reading := some (key, values ++ [map.values key ⟨values.length, more⟩])
        distinct := by simpa [reading] using g.distinct }
    else
      { g with
        entries := g.entries ++ [.key key (.ok values)]
        reading := none
        distinct := by simpa [reading, Entry.key?] using g.distinct }

/-- The iteration is over when it has been to each key that was there when it began. -/
def done : Option (NetworkCall ε) :=
  if g.reading = none ∧
      networkKeys.all fun key => (g.began.counters key).isNone || decide (key ∈ g.visited) then
    some ⟨g.windowDuration, g.entries, g.nodup_visited⟩
  else none

/-- The iteration fails, or the lookup that is going on does. -/
def fail (error : ε) : NetworkCall ε :=
  match reading : g.reading with
  | none =>
    ⟨g.windowDuration, g.entries ++ [.failed error], by
      rw [Entry.keys_concat, Entry.key?, Option.toList_none, List.append_nil]
      exact g.nodup_visited⟩
  | some (key, _) =>
    ⟨g.windowDuration, g.entries ++ [.key key (.error error)], by
      simpa [reading, Entry.key?] using g.distinct⟩

end Gathering

/-! ## The host -/

/-- The map of the program, and the collector that reads it. -/
structure NetworkHost (cpus : ℕ) (ε : Type) where
  maps : NetworkMap cpus
  collector : Collector RawNetworkKey RawNetworkCounters
  call : Option (Gathering cpus ε)

/-- What happens: packets, and what a call of the collector does, in any order. -/
inductive NetworkEvent (cpus : ℕ) (ε : Type) where
  | packet (e : PacketEvent cpus)
  | collect (windowDuration : Duration)
  | next (key : RawNetworkKey)
  | read
  | done
  | fail (error : ε)

namespace NetworkHost

open NetworkMap
open NetworkCollector (map)

/-- At first nothing was counted or collected. -/
def new : NetworkHost cpus ε := ⟨.new, .new, none⟩

/-- The call that an event ends, with what it went over. -/
def ended (s : NetworkHost cpus ε) :
    NetworkEvent cpus ε → Option (NetworkCall ε)
  | .done => s.call.bind Gathering.done
  | .fail error => s.call.map (Gathering.fail · error)
  | _ => none

/-- A call goes on. -/
def goOn (s : NetworkHost cpus ε) : NetworkEvent cpus ε → NetworkHost cpus ε
  | .packet e => { s with maps := s.maps.step e }
  | .collect windowDuration => { s with call := s.call.or (some (.start windowDuration s.maps)) }
  | .next key => { s with call := s.call.map (Gathering.next · s.maps key) }
  | .read => { s with call := s.call.map (Gathering.read · s.maps) }
  | .done => s
  | .fail _ => s

/-- What the collector has gone over is taken as a whole when the call ends: until then no one sees
the sums it keeps. -/
def step (s : NetworkHost cpus ε) (e : NetworkEvent cpus ε) : NetworkHost cpus ε :=
  match s.ended e with
  | some call => { s with collector := map.step s.collector call, call := none }
  | none => s.goOn e

/-- The calls of a run that have ended. -/
def calls (es : List (NetworkEvent cpus ε)) :
    List (NetworkCall ε) := outputs step ended new es

/-- What an event has the collector return, if a call succeeds. -/
def report (s : NetworkHost cpus ε) (e : NetworkEvent cpus ε) : Option (Snapshot NetworkSample) :=
  (s.ended e).bind fun call => (NetworkCollector.collect s.collector call).1.toOption

/-- The snapshots of a run. -/
def snapshots (es : List (NetworkEvent cpus ε)) : List (Snapshot NetworkSample) :=
  outputs step report new es

/-- The packets of a run. -/
def packetEvents (es : List (NetworkEvent cpus ε)) : List (PacketEvent cpus) :=
  es.filterMap fun
    | .packet e => some e
    | _ => none

/-- What a run has counted. -/
def counted (es : List (NetworkEvent cpus ε)) : List (Packet cpus) := packets (packetEvents es)

/-- The kernel's side of a step is that of its packets. -/
theorem maps_step (s : NetworkHost cpus ε) (e : NetworkEvent cpus ε) :
    (s.step e).maps = run NetworkMap.step s.maps (packetEvents [e]) := by
  cases e with
  | done =>
    rw [step]
    split <;> rfl
  | fail error =>
    rw [step]
    split <;> rfl
  | _ => rfl

/-- The map is what the packets make of it. -/
theorem maps_run (es : List (NetworkEvent cpus ε)) :
    (run step new es).maps = run NetworkMap.step .new (packetEvents es) := by
  induction es using List.reverseRecOn with
  | nil => rfl
  | append_singleton es e ih =>
    rw [run_append, run_cons, run_nil, maps_step, ih, packetEvents, packetEvents, packetEvents,
      List.filterMap_append, run_append]

/-- The collector makes a step only when a call ends. -/
theorem collector_step (s : NetworkHost cpus ε) (e : NetworkEvent cpus ε) :
    (s.step e).collector =
      (s.ended e).elim s.collector (map.step s.collector) := by
  rw [step]
  cases ended : s.ended e with
  | some call => rfl
  | none => cases e <;> rfl

/-- The snapshots are those of the calls. -/
theorem snapshots_eq (es : List (NetworkEvent cpus ε)) :
    snapshots es = map.snapshots .new (calls es) :=
  outputs_refines (R := fun (s : NetworkHost cpus ε) t => s.collector = t) (C := fun _ _ => True)
    (fun s t e same _ => by rw [collector_step, same])
    (fun s t e same _ => by rw [← same]; rfl) rfl (stepsMeet_true _ _ es)

end NetworkHost

/-! ## What a call copies -/

section Copied

variable {low low' high high' : NetworkMap cpus} {key : RawNetworkKey}
  {values : List RawNetworkCounters}

/-- Counters that are copied CPU by CPU, each between what two maps hold. -/
structure Copied (low high : NetworkMap cpus) (key : RawNetworkKey)
    (values : List RawNetworkCounters) : Prop where
  within : values.length ≤ cpus
  above : ∀ (tally : NetworkTally) (cpu : Fin cpus) counters, values[cpu.val]? = some counters →
    tally.value (low.values key cpu) ≤ tally.value counters
  below : ∀ (tally : NetworkTally) (cpu : Fin cpus) counters, values[cpu.val]? = some counters →
    tally.value counters ≤ tally.value (high.values key cpu)

/-- Wider bounds hold too: what was copied in a while was copied in a longer one. -/
theorem Copied.mono (copied : Copied low high key values) (lower : low'.AtMost low)
    (higher : high.AtMost high') : Copied low' high' key values where
  within := copied.within
  above tally cpu counters found :=
    UInt64.le_trans (lower tally key cpu) (copied.above tally cpu counters found)
  below tally cpu counters found :=
    UInt64.le_trans (copied.below tally cpu counters found) (higher tally key cpu)

/-- Before the first copy nothing is out of bounds. -/
theorem copied_nil : Copied low high key [] where
  within := Nat.zero_le _
  above _ _ _ found := nomatch found
  below _ _ _ found := nomatch found

/-- One CPU more. -/
theorem Copied.concat (copied : Copied low high key values) (le : low.AtMost high)
    (more : values.length < cpus) :
    Copied low high key (values ++ [high.values key ⟨values.length, more⟩]) := by
  have last {cpu : Fin cpus} {counters : RawNetworkCounters}
      (found : (values ++ [high.values key ⟨values.length, more⟩])[cpu.val]? = some counters) :
      values[cpu.val]? = some counters ∨ counters = high.values key cpu := by
    by_cases before : cpu.val < values.length
    · rw [List.getElem?_append_left before] at found
      exact .inl found
    · rw [List.getElem?_append_right (Nat.le_of_not_lt before), List.getElem?_singleton] at found
      split at found
      next same =>
        have here : cpu = ⟨values.length, more⟩ := Fin.ext (by simpa using by omega)
        rw [here]
        exact .inr (Option.some.inj found).symm
      next => cases found
  constructor
  · rw [List.length_append]
    exact more
  · intro tally cpu counters found
    rcases last found with before | rfl
    · exact copied.above tally cpu counters before
    · exact le tally key cpu
  · intro tally cpu counters found
    rcases last found with before | rfl
    · exact copied.below tally cpu counters before
    · exact UInt64.le_refl _

/-- A lookup has the counters of every CPU. -/
structure Whole (low high : NetworkMap cpus)
    (lookup : NetworkLookup) : Prop where
  length : lookup.values.length = cpus
  copied : Copied low high lookup.key lookup.values

variable {lookup lookup' : NetworkLookup}

/-- A lookup whole between two maps is whole between any that lie further apart. -/
theorem Whole.mono (whole : Whole low high lookup) (lower : low'.AtMost low)
    (higher : high.AtMost high') : Whole low' high' lookup :=
  ⟨whole.length, whole.copied.mono lower higher⟩

/-- A lookup before a map and one after it. -/
theorem Whole.forall₂ (before : Whole low high lookup) (after : Whole high high' lookup')
    (same : lookup.key = lookup'.key) (tally : NetworkTally) :
    List.Forall₂ (fun a b => tally.counter.value a ≤ tally.counter.value b) lookup.values
      lookup'.values := by
  rw [List.forall₂_iff_get]
  refine ⟨before.length.trans after.length.symm, fun i h h' => ?_⟩
  have here : i < cpus := before.length ▸ h
  have below := before.copied.below tally ⟨i, here⟩ _ (List.getElem?_eq_getElem h)
  have above := after.copied.above tally ⟨i, here⟩ _ (List.getElem?_eq_getElem h')
  rw [same] at below
  exact UInt64.le_trans below above

/-- The collector's sum of a whole lookup, one summand for each CPU. -/
theorem Whole.sum_eq (whole : Whole low high lookup) (tally : NetworkTally) :
    tally.counter.sum lookup.values =
      ∑ cpu : Fin cpus, (tally.value (lookup.values.get (cpu.cast whole.length.symm))).toNat := by
  obtain ⟨length, -⟩ := whole
  subst length
  rw [CounterMap.Counter.sum, ← List.sum_ofFn]
  congr 1
  exact (List.ofFn_getElem_eq_map lookup.values _).symm

/-- **What a lookup adds up to** lies between what the two maps add up to. -/
theorem Whole.le_sum (whole : Whole low high lookup) (tally : NetworkTally) :
    ∑ cpu : Fin cpus, (tally.value (low.values lookup.key cpu)).toNat ≤
      tally.counter.sum lookup.values := by
  rw [whole.sum_eq]
  refine Finset.sum_le_sum fun cpu _ => UInt64.le_iff_toNat_le.mp ?_
  exact whole.copied.above tally cpu _ (List.getElem?_eq_getElem (whole.length ▸ cpu.isLt))

/-- A lookup sums to no more than the maps hold when it ends. -/
theorem Whole.sum_le (whole : Whole low high lookup) (tally : NetworkTally) :
    tally.counter.sum lookup.values ≤
      ∑ cpu : Fin cpus, (tally.value (high.values lookup.key cpu)).toNat := by
  rw [whole.sum_eq]
  refine Finset.sum_le_sum fun cpu _ => UInt64.le_iff_toNat_le.mp ?_
  exact whole.copied.below tally cpu _ (List.getElem?_eq_getElem (whole.length ▸ cpu.isLt))

end Copied

/-! ## Calls one after another -/

/-- The lookups of a longer call are those of its parts. -/
theorem CounterMap.mem_lookups_append {K C D S : Type} (map : CounterMap K C D S)
    {entries more : List (Entry K C ε)} {lookup : Lookup K C D}
    (mem : lookup ∈ map.lookups (entries ++ more)) :
    lookup ∈ map.lookups entries ∨ lookup ∈ map.lookups more := by
  induction entries with
  | nil => exact .inr mem
  | cons entry entries ih =>
    cases entry with
    | failed error => exact absurd mem List.not_mem_nil
    | key key values =>
      rw [List.cons_append, lookups] at mem
      rw [lookups]
      split at mem
      next => exact ih mem
      next =>
        split at mem
        next => exact absurd mem List.not_mem_nil
        next =>
          rcases List.mem_cons.mp mem with rfl | mem
          · exact .inl List.mem_cons_self
          · exact (ih mem).imp_left (List.mem_cons_of_mem _)

namespace NetworkHost

open NetworkMap
open NetworkCollector (map)

/-- A call under way, after the calls that have ended. -/
structure Going (shown : List (NetworkCall ε))
    (now : NetworkMap cpus) (g : Gathering cpus ε) : Prop where
  began : g.began.AtMost now
  past : ∀ call ∈ shown, ∀ lookup ∈ map.lookups call.entries, Whole .new g.began lookup
  entries : ∀ lookup ∈ map.lookups g.entries, Whole g.began now lookup
  reading : ∀ key values, g.reading = some (key, values) → Copied g.began now key values
  succeeded : ∀ entry ∈ g.entries, ∃ key values, entry = .key key (.ok values)

section Going

variable {shown : List (NetworkCall ε)} {now later : NetworkMap cpus}
  {g : Gathering cpus ε}

/-- A call that goes on stays good while packets are counted. -/
theorem Going.grow (going : Going shown now g) (grows : now.AtMost later) :
    Going shown later g where
  began := going.began.trans grows
  past := going.past
  entries lookup mem := (going.entries lookup mem).mono (.refl _) grows
  reading key values found := (going.reading key values found).mono (.refl _) grows
  succeeded := going.succeeded

/-- It stays so when it steps to the next key, -/
theorem Going.next (going : Going shown now g) (key : RawNetworkKey) :
    Going shown now (g.next now key) := by
  rw [Gathering.next]
  split
  next fresh =>
    refine ⟨going.began, going.past, going.entries, ?_, going.succeeded⟩
    intro key' values found
    cases found
    exact copied_nil
  next => exact going

/-- and when it copies a CPU's counters. -/
theorem Going.read (going : Going shown now g) : Going shown now (g.read now) := by
  unfold Gathering.read
  split
  next => exact going
  next key values reading =>
    have copied := going.reading key values reading
    split
    next more =>
      refine ⟨going.began, going.past, going.entries, ?_, going.succeeded⟩
      intro key' values' found
      cases found
      exact copied.concat going.began more
    next whole =>
      refine ⟨going.began, going.past, ?_, fun _ _ found => (nomatch found), ?_⟩
      · intro lookup mem
        rcases map.mem_lookups_append mem with mem | mem
        · exact going.entries lookup mem
        · rw [CounterMap.lookups] at mem
          split at mem
          next => cases mem
          next =>
            rw [CounterMap.lookups, List.mem_singleton] at mem
            subst mem
            exact ⟨Nat.le_antisymm copied.within (Nat.le_of_not_lt whole), copied⟩
      · intro entry mem
        rcases List.mem_append.mp mem with mem | mem
        · exact going.succeeded entry mem
        · exact ⟨key, values, List.mem_singleton.mp mem⟩

/-- What a call that ends has looked up is what it had copied. -/
theorem exists_going_of_ended {s : NetworkHost cpus ε} {e : NetworkEvent cpus ε}
    {call : NetworkCall ε} (ended : s.ended e = some call) :
    ∃ g, s.call = some g ∧
      ∀ lookup ∈ map.lookups call.entries, lookup ∈ map.lookups g.entries := by
  cases e with
  | done =>
    obtain ⟨g, under, done⟩ := Option.bind_eq_some_iff.mp ended
    refine ⟨g, under, ?_⟩
    rw [Gathering.done] at done
    split at done
    next =>
      cases done
      exact fun _ mem => mem
    next => cases done
  | fail error =>
    obtain ⟨g, under, rfl⟩ := Option.map_eq_some_iff.mp ended
    refine ⟨g, under, fun lookup mem => ?_⟩
    unfold Gathering.fail at mem
    split at mem
    next => exact (map.mem_lookups_append mem).resolve_right List.not_mem_nil
    next =>
      refine (map.mem_lookups_append mem).resolve_right fun mem => ?_
      rw [CounterMap.lookups] at mem
      split at mem
      next => cases mem
      next => cases mem
  | _ => cases ended

end Going

/-- The calls that have ended, and the one under way: what each has copied was there after what the
one before it had. -/
structure Ordered (shown : List (NetworkCall ε))
    (s : NetworkHost cpus ε) : Prop where
  nonDecreasing : ∀ tally : NetworkTally, tally.counter.NonDecreasing shown
  past : ∀ call ∈ shown, ∀ lookup ∈ map.lookups call.entries, Whole .new s.maps lookup
  going : ∀ g, s.call = some g → Going shown s.maps g

variable {shown : List (NetworkCall ε)} {s : NetworkHost cpus ε}

/-- A call goes on: only the map and the call under way change. -/
theorem ordered_goOn {e : NetworkEvent cpus ε} (ordered : Ordered shown s)
    (grows : s.maps.AtMost (s.goOn e).maps) : Ordered shown (s.goOn e) := by
  obtain ⟨nonDecreasing, past, going⟩ := ordered
  refine ⟨nonDecreasing, ?_, ?_⟩
  · exact fun call mem lookup found => (past call mem lookup found).mono (.refl _) grows
  · cases e with
    | packet e => exact fun g under => (going g under).grow grows
    | collect windowDuration =>
      intro g under
      cases already : s.call with
      | some g' =>
        have same : some g' = some g := by
          rw [← under, goOn, already]
          rfl
        cases same
        exact going g already
      | none =>
        have same : some (.start windowDuration s.maps) = some g := by
          rw [← under, goOn, already]
          rfl
        cases same
        exact ⟨.refl _, past, fun _ mem => (nomatch mem), fun _ _ found => (nomatch found),
          fun _ mem => nomatch mem⟩
    | next key =>
      intro g under
      obtain ⟨g, before, rfl⟩ := Option.map_eq_some_iff.mp under
      exact (going g before).next key
    | read =>
      intro g under
      obtain ⟨g, before, rfl⟩ := Option.map_eq_some_iff.mp under
      exact (going g before).read
    | done => exact going
    | fail error => exact going

/-- **Every step keeps the calls in order.** -/
theorem ordered_step (shown : List (NetworkCall ε))
    (s : NetworkHost cpus ε) (e : NetworkEvent cpus ε) (ordered : Ordered shown s)
    (grows : s.maps.AtMost (s.step e).maps) :
    Ordered (shown ++ (s.ended e).toList) (s.step e) := by
  cases ended : s.ended e with
  | none =>
    have same : s.step e = s.goOn e := by rw [step, ended]
    rw [same] at grows ⊢
    rw [Option.toList_none, List.append_nil]
    exact ordered_goOn ordered grows
  | some call =>
    obtain ⟨g, under, copied⟩ := exists_going_of_ended ended
    have going := ordered.going g under
    have same : s.step e =
        { s with collector := map.step s.collector call, call := none } := by rw [step, ended]
    rw [same, Option.toList_some]
    refine ⟨fun tally => ?_, ?_, fun g' under' => nomatch under'⟩
    · refine List.pairwise_append.mpr ⟨ordered.nonDecreasing tally, List.pairwise_singleton .., ?_⟩
      intro call' mem last mem' lookup found lookup' found' own
      cases List.mem_singleton.mp mem'
      have after := going.entries lookup' (copied lookup' found')
      exact (going.past call' mem lookup found).forall₂ after own tally
    · intro call' mem lookup found
      rcases List.mem_append.mp mem with mem | mem
      · exact ordered.past call' mem lookup found
      · cases List.mem_singleton.mp mem
        refine (going.entries lookup (copied lookup found)).mono ?_ (.refl _)
        intro tally key cpu
        show tally.counter.value NetworkCollector.map.default ≤ _
        rw [tally.counter.value_default]
        exact UInt64.zero_le

/-- At first no call was made. -/
theorem ordered_new : Ordered [] (new : NetworkHost cpus ε) :=
  ⟨fun _ => List.Pairwise.nil, fun _ mem => (nomatch mem), fun _ under => nomatch under⟩

/-- The map only grows. -/
theorem grows_run {es : List (NetworkEvent cpus ε)} (fits : Fits (counted es)) :
    StepsMeet step (fun s e => s.maps.AtMost (s.step e).maps) new es := by
  rintro pre e post rfl
  have split : packetEvents (pre ++ e :: post) =
      packetEvents pre ++ packetEvents [e] ++ packetEvents post := by
    rw [packetEvents, packetEvents, packetEvents, packetEvents, ← List.filterMap_append,
      ← List.filterMap_append, List.append_assoc]
    rfl
  have upTo : Fits (packets (packetEvents pre ++ packetEvents [e])) := by
    rw [counted, split, packets, outputs_append] at fits
    exact fits.left
  have grows := atMost_run upTo
  rw [run_append, ← maps_run pre, ← maps_step] at grows
  exact grows

/-- **In every run, each call reads between what was counted when it began and when it ended**, and
the calls follow one another. -/
theorem ordered_run {es : List (NetworkEvent cpus ε)} (fits : Fits (counted es)) :
    Ordered (calls es) (run step new es) :=
  run_history ordered_step ordered_new (grows_run fits)

end NetworkHost

/-! ## What is reported -/

namespace CounterMap

open Meter

variable {K C D S : Type} [DecidableEq K] {map : CounterMap K C D S}
  {calls : List (CollectCall K C ε)} {key : K}

/-- For one key a run of the collector is a run of its meter. -/
theorem baseline_run (s : Collector K C) (calls : List (CollectCall K C ε)) (key : K) :
    run observe (some (map.baseline s key)) (calls.map (map.observation key)) =
      some (map.baseline (run map.step s calls) key) :=
  (run_project (f := fun s => some (map.baseline s key)) (map.baseline_project key) s calls).symm

/-- A sum that is kept was looked up. -/
theorem exists_lookup_of_previous {current : C}
    (kept : (run map.step .new calls).previous key = some current) :
    ∃ call ∈ calls, ∃ lookup ∈ map.lookups call.entries,
      lookup.key = key ∧ map.current lookup = current := by
  induction calls using List.reverseRecOn with
  | nil => cases kept
  | append_singleton calls call ih =>
    rw [run_append, run_cons, run_nil, step_previous] at kept
    cases found : map.lookupOf call.entries key with
    | some lookup =>
      rw [found] at kept
      obtain ⟨mem, own⟩ := map.lookupOf_eq_some_iff.mp found
      have last : call ∈ calls ++ [call] := List.mem_append_right _ List.mem_cons_self
      exact ⟨call, last, lookup, mem, own, Option.some.inj kept⟩
    | none =>
      rw [found] at kept
      obtain ⟨call', mem, rest⟩ := ih kept
      exact ⟨call', List.mem_append_left _ mem, rest⟩

namespace Counter

variable [DecidableEq D] (counter : map.Counter) {s : Collector K C} {d : D}

/-- What a run reports was measured: a call that fails reports nothing. -/
theorem total_snapshots_le_measured (known : map.direction key = some d)
    (steady : StepsMeet observe (Steady counter.Follows) (some (map.baseline s key))
      (calls.map (map.observation key))) :
    counter.total d (map.snapshots s calls) ≤
      ((outputs observe (measured counter.Follows) (some (map.baseline s key))
        (calls.map (map.observation key))).map
          fun pair => (counter.value pair.2).toNat - (counter.value pair.1).toNat).sum := by
  induction calls generalizing s with
  | nil => exact Nat.zero_le _
  | cons call calls ih =>
    obtain ⟨first, rest⟩ := stepsMeet_cons.mp steady
    rw [← map.baseline_project key s call] at rest
    rw [snapshots, outputs, total_append, List.map_cons, outputs, List.map_append,
      List.sum_append, ← map.baseline_project key s call]
    refine Nat.add_le_add ?_ (ih rest)
    by_cases succeeds : map.failure call.entries = none
    · rw [total_collect counter (fun failed => absurd succeeds failed) known first]
      cases measured counter.Follows (some (map.baseline s key)) (map.observation key call) with
      | none => rfl
      | some pair => simp
    · obtain ⟨error, failed⟩ := Option.ne_none_iff_exists'.mp succeeds
      rw [map.collect_fst, failed]
      exact Nat.zero_le _

omit [DecidableEq K] [DecidableEq D] in
/-- A value that follows another is not below it. -/
theorem follows_toNat (a b : C) (follow : counter.Follows a b) :
    (counter.value a).toNat ≤ (counter.value b).toNat := UInt64.le_iff_toNat_le.mp follow

/-- No run reports more than the sum of the key has grown by, -/
theorem total_snapshots_le (known : map.direction key = some d)
    (steady : StepsMeet observe (Steady counter.Follows) (some (map.baseline s key))
      (calls.map (map.observation key))) :
    counter.total d (map.snapshots s calls) + (counter.value (map.baseline s key)).toNat ≤
      (counter.value (map.baseline (run map.step s calls) key)).toNat := by
  rw [← telescope counter.follows_toNat steady (map.baseline_run s calls key)]
  exact Nat.add_le_add_right (counter.total_snapshots_le_measured known steady) _

/-- and it reports just that, if no call that fails has looked up anything new. -/
theorem total_snapshots_eq (known : map.direction key = some d)
    (idle : StepsMeet map.step map.FailsIdle s calls)
    (steady : StepsMeet observe (Steady counter.Follows) (some (map.baseline s key))
      (calls.map (map.observation key))) :
    counter.total d (map.snapshots s calls) + (counter.value (map.baseline s key)).toNat =
      (counter.value (map.baseline (run map.step s calls) key)).toNat := by
  rw [counter.total_snapshots idle known steady]
  exact telescope counter.follows_toNat steady (map.baseline_run s calls key)

end Counter

end CounterMap

/-- The key of a direction. -/
def NetworkDirection.key : NetworkDirection → RawNetworkKey
  | .ingress => ⟨networkDirectionIngress⟩
  | .egress => ⟨networkDirectionEgress⟩

/-- The collector's map reads each direction back from its key. -/
theorem NetworkDirection.direction_key (d : NetworkDirection) :
    NetworkCollector.map.direction d.key = some d := by
  cases d <;> rfl

namespace NetworkHost

open NetworkMap
open NetworkCollector (map)

variable {es : List (NetworkEvent cpus ε)}

/-- What a run has counted in a direction. -/
def carried (tally : NetworkTally) (d : NetworkDirection) (es : List (NetworkEvent cpus ε)) : ℕ :=
  tally.carried d.key (counted es)

/-- What the maps hold for a direction, summed over the CPUs, is what its packets carried. -/
theorem sum_maps (fits : Fits (counted es)) (tally : NetworkTally) (d : NetworkDirection) :
    ∑ cpu : Fin cpus, (tally.value ((run step new es).maps.values d.key cpu)).toNat =
      carried tally d es := by
  rw [maps_run, sum_values fits]
  rfl

/-- The readings of each key follow one another. -/
theorem steady_calls (fits : Fits (counted es)) (tally : NetworkTally) (d : NetworkDirection) :
    StepsMeet Meter.observe (Meter.Steady tally.counter.Follows)
      (some (map.baseline (.new : Collector _ _) d.key))
      ((calls es).map (map.observation d.key)) := by
  refine tally.counter.steady_observations ((ordered_run fits).nonDecreasing tally) ?_
  intro call mem lookup found own
  show tally.counter.value map.default ≤ _
  rw [tally.counter.value_default]
  exact UInt64.zero_le

/-- What a lookup of a run sums to does not overflow. -/
theorem toNat_current (fits : Fits (counted es)) {call : NetworkCall ε} (mem : call ∈ calls es)
    {lookup : NetworkLookup} (found : lookup ∈ map.lookups call.entries) (tally : NetworkTally) :
    (tally.value (map.current lookup)).toNat = tally.counter.sum lookup.values := by
  have whole := (ordered_run fits).past call mem lookup found
  refine tally.counter.value_current lookup ?_
  refine (whole.sum_le tally).trans_lt ?_
  rw [maps_run, sum_values fits]
  exact fits tally lookup.key

/-- The sum that the collector keeps is at most what was counted. -/
theorem baseline_le (fits : Fits (counted es)) (tally : NetworkTally) (d : NetworkDirection) :
    (tally.value (map.baseline (run map.step .new (calls es)) d.key)).toNat ≤
      carried tally d es := by
  cases kept : (run map.step .new (calls es)).previous d.key with
  | none =>
    have zero : tally.value .default = 0 := tally.counter.value_default
    rw [CounterMap.baseline, kept]
    show (tally.value .default).toNat ≤ _
    rw [zero]
    exact Nat.zero_le _
  | some current =>
    obtain ⟨call, mem, lookup, found, own, rfl⟩ := CounterMap.exists_lookup_of_previous kept
    have whole := (ordered_run fits).past call mem lookup found
    rw [CounterMap.baseline, kept, Option.getD_some, toNat_current fits mem found, ← sum_maps fits,
      ← own]
    exact whole.sum_le tally

/-! ## A call that succeeds -/

section Succeeds

variable {g : Gathering cpus ε} {call : NetworkCall ε}

/-- Stepping to a key does not move the point where the call began. -/
theorem began_next (maps : NetworkMap cpus) (key : RawNetworkKey) :
    (g.next maps key).began = g.began := by
  rw [Gathering.next]
  split <;> rfl

/-- Nor does copying a CPU's counters. -/
theorem began_read (maps : NetworkMap cpus) : (g.read maps).began = g.began := by
  unfold Gathering.read
  split
  next => rfl
  next => split <;> rfl

/-- A call remembers the map that it began with. -/
theorem began_run {maps : NetworkMap cpus} {mid : List (NetworkEvent cpus ε)}
    {s : NetworkHost cpus ε} (under : ∃ g, s.call = some g ∧ g.began = maps)
    (goesOn : outputs step ended s mid = []) :
    ∃ g, (run step s mid).call = some g ∧ g.began = maps := by
  induction mid generalizing s with
  | nil => exact under
  | cons e mid ih =>
    obtain ⟨first, rest⟩ := List.append_eq_nil_iff.mp goesOn
    have notEnded : s.ended e = none := Option.toList_eq_nil_iff.mp first
    obtain ⟨g, under, began⟩ := under
    refine ih ?_ rest
    rw [step, notEnded]
    cases e with
    | next key => exact ⟨_, congrArg (Option.map _) under, (began_next _ _).trans began⟩
    | read => exact ⟨_, congrArg (Option.map _) under, (began_read _).trans began⟩
    | collect windowDuration =>
      refine ⟨g, ?_, began⟩
      rw [goOn, under]
      rfl
    | _ => exact ⟨g, under, began⟩

/-- What a call that succeeds has been to, it has looked up. -/
theorem exists_lookup_of_visited {entries : List (Entry RawNetworkKey RawNetworkCounters ε)}
    (succeeded : ∀ entry ∈ entries, ∃ key values, entry = .key key (.ok values))
    {key : RawNetworkKey} {d : NetworkDirection} (known : map.direction key = some d)
    (visited : key ∈ entries.filterMap Entry.key?) :
    ∃ lookup ∈ map.lookups entries, lookup.key = key := by
  induction entries with
  | nil => cases visited
  | cons entry entries ih =>
    obtain ⟨key', values, rfl⟩ := succeeded entry List.mem_cons_self
    have rest := ih fun entry mem => succeeded entry (List.mem_cons_of_mem _ mem)
    rw [CounterMap.lookups]
    rcases List.mem_cons.mp visited with rfl | visited
    · rw [known]
      exact ⟨_, List.mem_cons_self, rfl⟩
    · obtain ⟨lookup, mem, own⟩ := rest visited
      split
      next => exact ⟨lookup, mem, own⟩
      next => exact ⟨lookup, List.mem_cons_of_mem _ mem, own⟩

/-- What fits the counters fits them at every earlier point of the run. -/
theorem fits_left {es more : List (NetworkEvent cpus ε)} (fits : Fits (counted (es ++ more))) :
    Fits (counted es) := by
  rw [counted, packetEvents, List.filterMap_append, packets, outputs_append] at fits
  exact fits.left

/-- A call that succeeds has been to all keys that were there when it began. -/
theorem Going.exists_lookup {shown : List (NetworkCall ε)} {now : NetworkMap cpus}
    (going : Going shown now g) (done : g.done = some call) {d : NetworkDirection}
    (there : g.began.counters d.key ≠ none) :
    ∃ lookup ∈ map.lookups call.entries, lookup.key = d.key ∧ Whole g.began now lookup := by
  rw [Gathering.done] at done
  split at done
  next finished =>
    cases done
    have key : d.key ∈ networkKeys := by cases d <;> simp [networkKeys, NetworkDirection.key]
    have been := List.all_eq_true.mp finished.2 d.key key
    have visited : d.key ∈ g.visited := by simpa [there] using been
    obtain ⟨lookup, mem, own⟩ := exists_lookup_of_visited going.succeeded d.direction_key visited
    exact ⟨lookup, mem, own, going.entries lookup mem⟩
  next => cases done

/-- **A call that succeeds has looked up all that was there when it began.** -/
theorem le_baseline {pre mid : List (NetworkEvent cpus ε)} {windowDuration : Duration}
    (fits : Fits (counted (pre ++ .collect windowDuration :: mid ++ [.done])))
    (idle : (run step new pre).call = none)
    (goesOn : outputs step ended (run step new (pre ++ [.collect windowDuration])) mid = [])
    (succeeds : (run step new (pre ++ .collect windowDuration :: mid)).ended .done = some call)
    (tally : NetworkTally) (d : NetworkDirection) :
    carried tally d pre ≤
      (tally.value (map.baseline (run map.step .new
        (calls (pre ++ .collect windowDuration :: mid ++ [.done]))) d.key)).toNat := by
  have split : pre ++ .collect windowDuration :: mid =
      (pre ++ [.collect windowDuration]) ++ mid := by
    rw [List.append_assoc, List.singleton_append]
  rw [split] at fits succeeds ⊢
  have upTo := fits_left fits
  have start : ∃ g, (run step new (pre ++ [.collect windowDuration])).call = some g ∧
      g.began = (run step new pre).maps := by
    refine ⟨.start windowDuration (run step new pre).maps, ?_, rfl⟩
    rw [run_append, run_cons, run_nil, step]
    show (run step new pre).call.or _ = _
    rw [idle, Option.none_or]
  obtain ⟨g, under, began⟩ := began_run start goesOn
  rw [← run_append] at under
  have going := (ordered_run upTo).going g under
  have done : g.done = some call := by
    rw [ended, under] at succeeds
    exact succeeds
  have last : calls ((pre ++ [.collect windowDuration]) ++ mid ++ [.done]) =
      calls ((pre ++ [.collect windowDuration]) ++ mid) ++ [call] := by
    rw [calls, outputs_append, outputs, succeeds]
    rfl
  rw [← sum_maps (fits_left (fits_left upTo)), ← began, last, run_append, run_cons, run_nil]
  by_cases there : g.began.counters d.key = none
  · -- Nothing was there of the direction.
    have none (cpu : Fin cpus) : (tally.value (g.began.values d.key cpu)).toNat = 0 := by
      rw [NetworkMap.values, there]
      exact congrArg UInt64.toNat tally.counter.value_default
    rw [Finset.sum_eq_zero fun cpu _ => none cpu]
    exact Nat.zero_le _
  · obtain ⟨lookup, mem, own, whole⟩ := going.exists_lookup done there
    have found : map.lookupOf call.entries d.key = some lookup :=
      map.lookupOf_eq_some_iff.mpr ⟨mem, own⟩
    have ended : call ∈ calls ((pre ++ [.collect windowDuration]) ++ mid ++ [.done]) := by
      rw [last]
      exact List.mem_append_right _ List.mem_cons_self
    rw [CounterMap.baseline, map.step_previous, found, Option.map_some, Option.some_or,
      Option.getD_some, toNat_current fits ended mem, ← own]
    exact whole.le_sum tally

end Succeeds

/-- **What is reported is what was counted.** In every run, with packets counted on any CPU between
any two counters that are copied, whatever fails:

- no direction is reported with more than what was counted;
- if no call that failed had looked up anything new, a call that succeeds leaves nothing out that
  was counted before it began. -/
theorem packets_reported (es : List (NetworkEvent cpus ε)) (fits : Fits (counted es)) :
    (∀ (tally : NetworkTally) d, tally.counter.total d (snapshots es) ≤ carried tally d es) ∧
    ∀ pre windowDuration mid call, es = pre ++ .collect windowDuration :: mid ++ [.done] →
      (run step new pre).call = none →
      outputs step ended (run step new (pre ++ [.collect windowDuration])) mid = [] →
      (run step new (pre ++ .collect windowDuration :: mid)).ended .done = some call →
      StepsMeet map.step map.FailsIdle .new (calls es) →
      ∀ (tally : NetworkTally) d, carried tally d pre ≤ tally.counter.total d (snapshots es) := by
  have zero (tally : NetworkTally) (d : NetworkDirection) :
      (tally.counter.value (map.baseline (.new : Collector _ _) d.key)).toNat = 0 :=
    congrArg UInt64.toNat tally.counter.value_default
  constructor
  · intro tally d
    have reported := tally.counter.total_snapshots_le d.direction_key (steady_calls fits tally d)
    rw [zero] at reported
    rw [snapshots_eq]
    exact reported.trans (baseline_le fits tally d)
  · rintro pre windowDuration mid call rfl idle goesOn succeeds failsIdle tally d
    have reported := tally.counter.total_snapshots_eq d.direction_key failsIdle
      (steady_calls fits tally d)
    rw [zero, Nat.add_zero] at reported
    rw [snapshots_eq, reported]
    exact le_baseline fits idle goesOn succeeds tally d

/-- Packets are received on two CPUs, also while a call copies the counters of the one and of the
other. -/
def torn : List (NetworkEvent 2 Unit) :=
  let first : Fin 2 := ⟨0, Nat.two_pos⟩
  let second : Fin 2 := ⟨1, Nat.one_lt_two⟩
  [.packet (.netifReceiveSkb first ⟨100⟩ true), .packet (.netifReceiveSkb second ⟨50⟩ true),
    .collect 1, .next ⟨1⟩, .read, .packet (.netifReceiveSkb first ⟨7⟩ true),
    .packet (.netifReceiveSkb second ⟨3⟩ true), .read, .read, .done]

/-- There were never 153 bytes in all. -/
example : NetworkTally.bytes.counter.total .ingress (snapshots torn) = 153 := by decide +kernel

theorem packets_reported_torn :
    carried .bytes .ingress (torn.take 2) ≤
        NetworkTally.bytes.counter.total .ingress (snapshots torn) ∧
      NetworkTally.bytes.counter.total .ingress (snapshots torn) ≤
        carried .bytes .ingress torn := by
  have fits : Fits (counted torn) := by
    refine fits_of_total fun tally => ?_
    cases tally <;> decide
  obtain ⟨le, ge⟩ := packets_reported torn fits
  have idle : StepsMeet NetworkCollector.map.step NetworkCollector.map.FailsIdle .new
      (calls torn) :=
    stepsMeet_cons.mpr ⟨fun failed => absurd rfl failed, stepsMeet_nil _ _ _⟩
  exact ⟨ge (torn.take 2) 1 ((torn.drop 3).take 6) _ rfl rfl rfl rfl idle .bytes .ingress,
    le .bytes .ingress⟩

end NetworkHost

end Talia

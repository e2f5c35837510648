import EnergyStorage.App.PanelRequests
import EnergyStorage.Hmi.ReadPages
import EnergyStorage.Normal.FlushFromModel

/-! # What the panel reads of the normal pages

The loop of the controller makes the calls of a flush one after the other, and bytes of the
panel are served in between.  When the last call of a flush is made, the panel reads what that
flush has found for each item. -/

namespace EnergyStorage

open Lib

namespace Normal

def HmiCall.op : HmiCall → HmiOp
  | setBoolRead a v => .setBoolRead a v
  | setIntRead a v => .setIntRead a v

end Normal

/-- The call for a register that the panel can only read. -/
def HmiOp.call? : HmiOp → Option Normal.HmiCall
  | .setBoolRead a v => some (.setBoolRead a v)
  | .setIntRead a v => some (.setIntRead a v)
  | .request _ | .setBoolRw _ _ | .setIntRw _ _ => none

namespace App

open EnergyStorage.Normal HMIProto

def localOp (c : HmiCall) : LocalOp := ⟨c.op, by cases c <;> rfl⟩

/-- The writer, the calls of its flushes that are not made yet, and the slave's port. -/
structure PanelPages where
  writer : NormalHmiWriter
  pending : List HmiCall := []
  port : SlavePort

/-- `call` makes the next call of a flush; `control` is any other write of the controller. -/
inductive PageStep
  | flush (snapshot logicView : Json)
  | call
  | bytes (chunk : List Byte)
  | control (op : LocalOp)

def PageStep.isFlush : PageStep → Bool
  | flush _ _ => true
  | call | bytes _ | control _ => false

/-- The step is no flush and does not set the register, unless for a flush. -/
def PageStep.Leaves (a : Word) : PageStep → Prop
  | flush _ _ => False
  | call | bytes _ => True
  | control op => ∀ c ∈ op.op.call?, c.addr ≠ a

section Pages

variable (unspec : Int) (beyond : BitVec 32 → Int → BitVec 32) (idx : Int)

def PanelPages.step (s : PanelPages) : PageStep → PanelPages
  | .flush snapshot logicView =>
    let f := s.writer.flushFromModel unspec beyond snapshot logicView
    { s with writer := f.1, pending := s.pending ++ f.2 }
  | .call =>
    match s.pending with
    | [] => s
    | c :: rest => { s with pending := rest, port := (s.port.step idx (.control (localOp c))).1 }
  | .bytes chunk => { s with port := (s.port.step idx (.bytes chunk)).1 }
  | .control op => { s with port := (s.port.step idx (.control op)).1 }

def panelPages (m : DisplayMap) (slaveId : Byte) (onWrite : Bool) :
    Machine PanelPages PageStep Empty :=
  ⟨{ writer := (NormalHmiWriter.bindMap {} (some m)).1
     port := { proto := .start slaveId onWrite } },
    fun s e => (s.step unspec beyond idx e, [])⟩

end Pages

/-! ### The tables -/

theorem readTables_serveAll (p : HMIProto) (frames : List (List Byte)) :
    (serveAll p frames).1.table.readTables = p.table.readTables := by
  induction frames generalizing p with
  | nil => rfl
  | cons f frames ih => exact (ih (serve p f).1).trans (p.readTables_handleRequest f)

theorem readTables_bytes (idx : Int) (s : SlavePort) (chunk : List Byte) :
    (s.step idx (.bytes chunk)).1.proto.table.readTables = s.proto.table.readTables := by
  rw [SlavePort.step]
  split
  · rfl
  · exact readTables_serveAll s.proto _

theorem readTables_step (p : HMIProto) {op : HmiOp} (h : op.call? = none) :
    (p.step op).1.table.readTables = p.table.readTables := by
  cases op with
  | request r => exact p.readTables_handleRequest r.bytes
  | setBoolRw a v => exact HmiWrite.readTables_put p.table (.coil a v)
  | setIntRw a v => exact HmiWrite.readTables_put p.table (.holding a v)
  | setBoolRead a v => cases h
  | setIntRead a v => cases h

theorem op_of_call? {op : HmiOp} {c : HmiCall} (h : op.call? = some c) : op = c.op := by
  cases op with
  | request r => cases h
  | setBoolRw a v => cases h
  | setIntRw a v => cases h
  | setBoolRead a v =>
    cases h
    rfl
  | setIntRead a v =>
    cases h
    rfl

/-- A table with the addresses that the slave has in it, as the panel reads it. -/
structure PanelTable (α : Type) extends ReadTable α where
  IsAddr : Word → Prop
  read : HmiAddressTable → Word → α
  read_call : ∀ (p : HMIProto) c a, IsAddr a →
    read (p.step c.op).1.table a = (setBy c a).getD (read p.table a)
  read_same : ∀ t t' : HmiAddressTable, t.readTables = t'.readTables → read t = read t'

def discreteInputs : PanelTable Bool where
  toReadTable := bitTable
  IsAddr := HmiAddressTable.IsDiscrete
  read := HmiAddressTable.readBoolRead
  read_call p c a ha := by
    cases c with
    | setBoolRead b v =>
      show (p.table.setBoolRead b v).readBoolRead a = (if b = a then some v else none).getD _
      rw [HmiAddressTable.readBoolRead_setBoolRead]
      by_cases hb : b = a
      · rw [if_pos ⟨hb ▸ ha, hb.symm⟩, if_pos hb]
        rfl
      · rw [if_neg (fun h => hb h.2.symm), if_neg hb]
        rfl
    | setIntRead b v =>
      show (((p.table.setIntRead b v).boolRd.get a).getD false) = _
      rw [HmiAddressTable.boolRd_setIntRead]
      rfl
  read_same t t' h := by
    funext a
    exact congrArg (fun x => (x.1.get a).getD false) h

def inputRegisters : PanelTable Word where
  toReadTable := wordTable
  IsAddr := HmiAddressTable.IsInput
  read := HmiAddressTable.readIntRead
  read_call p c a ha := by
    cases c with
    | setBoolRead b v =>
      show (((p.table.setBoolRead b v).intRd.get a).getD 0) = _
      rw [HmiAddressTable.intRd_setBoolRead]
      rfl
    | setIntRead b v =>
      show (p.table.setIntRead b v).readIntRead a = (if b = a then some v else none).getD _
      rw [HmiAddressTable.readIntRead_setIntRead]
      by_cases hb : b = a
      · rw [if_pos ⟨hb ▸ ha, hb.symm⟩, if_pos hb]
        rfl
      · rw [if_neg (fun h => hb h.2.symm), if_neg hb]
        rfl
  read_same t t' h := by
    funext a
    exact congrArg (fun x => (x.2.get a).getD 0) h

/-! ### One step -/

namespace PanelTable

variable {α : Type} (T : PanelTable α)

/-- What the table holds at an address once the calls are made that have been asked for. -/
def settled (s : PanelPages) (a : Word) : α :=
  (T.lastSet s.pending a).getD (T.read s.port.proto.table a)

theorem settled_of_done {s : PanelPages} (h : s.pending = []) (a : Word) :
    T.settled s a = T.read s.port.proto.table a := by
  rw [settled, h]
  rfl

variable {unspec : Int} {beyond : BitVec 32 → Int → BitVec 32} {idx : Int}

theorem settled_flush (s : PanelPages) (snapshot logicView : Json) (a : Word) :
    T.settled (s.step unspec beyond idx (.flush snapshot logicView)) a =
      (T.lastSet (s.writer.flushFromModel unspec beyond snapshot logicView).2 a).getD
        (T.settled s a) := by
  show (T.lastSet (s.pending ++ _) a).getD _ = _
  rw [T.lastSet_append, settled]
  cases T.lastSet (s.writer.flushFromModel unspec beyond snapshot logicView).2 a <;> rfl

theorem settled_step (s : PanelPages) {e : PageStep} {a : Word} (ha : T.IsAddr a)
    (he : e.Leaves a) : T.settled (s.step unspec beyond idx e) a = T.settled s a := by
  cases e with
  | flush snapshot logicView => exact he.elim
  | call =>
    cases hs : s.pending with
    | nil =>
      have hstep : s.step unspec beyond idx .call = s := by rw [PanelPages.step, hs]
      rw [hstep]
    | cons c rest =>
      have hstep : s.step unspec beyond idx .call = { s with
          pending := rest, port := (s.port.step idx (.control (localOp c))).1 } := by
        rw [PanelPages.step, hs]
      have hcall : T.lastSet (c :: rest) a = (T.lastSet rest a).or (T.setBy c a) := by
        rw [← List.singleton_append, T.lastSet_append]
        cases hby : T.setBy c a <;> simp [ReadTable.lastSet, hby]
      rw [hstep, settled, settled, hs, hcall]
      show (T.lastSet rest a).getD (T.read (s.port.proto.step c.op).1.table a) = _
      rw [T.read_call s.port.proto c a ha]
      cases T.lastSet rest a <;> rfl
  | bytes chunk =>
    have hread := T.read_same _ _ (readTables_bytes idx s.port chunk)
    show (T.lastSet s.pending a).getD (T.read (s.port.step idx (.bytes chunk)).1.proto.table a) = _
    rw [hread, settled]
  | control op =>
    show (T.lastSet s.pending a).getD (T.read (s.port.proto.step op.op).1.table a) = _
    cases hcall : op.op.call? with
    | none => rw [T.read_same _ _ (readTables_step s.port.proto hcall), settled]
    | some c =>
      have hne : T.setBy c a = none := T.setBy_of_ne c a (he c hcall)
      rw [op_of_call? hcall, T.read_call s.port.proto c a ha, hne, settled]
      rfl

variable {m : DisplayMap} {slaveId : Byte} {onWrite : Bool}

theorem settled_runFrom (s : PanelPages) {es : List PageStep} {a : Word} (ha : T.IsAddr a)
    (hes : ∀ e ∈ es, e.Leaves a) :
    T.settled ((panelPages unspec beyond idx m slaveId onWrite).runFrom s es) a =
      T.settled s a := by
  induction es generalizing s with
  | nil => rfl
  | cons e es ih =>
    rw [Machine.runFrom_cons, ih _ fun x hx => hes x (List.mem_cons_of_mem e hx)]
    exact T.settled_step s ha (hes e List.mem_cons_self)

end PanelTable

/-! ### A whole run -/

section Run

variable (unspec : Int) (beyond : BitVec 32 → Int → BitVec 32) (idx : Int) (m : DisplayMap)
  (slaveId : Byte) (onWrite : Bool)

/-- The model that a flush takes its values from, after so many others. -/
def modelAt (flushes : Nat) (snapshot logicView : Json) : Json :=
  (displayModel snapshot logicView (BitVec.ofNat 32 flushes)).1

theorem writer_run (hm : m.items ≠ []) (es : List PageStep) :
    ((panelPages unspec beyond idx m slaveId onWrite).run es).writer =
      ⟨some m, BitVec.ofNat 32 (es.countP PageStep.isFlush)⟩ := by
  induction es using List.reverseRecOn with
  | nil =>
    show (NormalHmiWriter.bindMap {} (some m)).1 = _
    rw [NormalHmiWriter.bindMap, if_neg (fun h => hm (List.isEmpty_iff.mp h))]
    rfl
  | append_singleton es e ih =>
    rw [Machine.run_snoc, List.countP_append, List.countP_singleton]
    show (PanelPages.step unspec beyond idx _ e).writer = _
    generalize (panelPages unspec beyond idx m slaveId onWrite).run es = s at ih ⊢
    cases e with
    | flush snapshot logicView =>
      show (s.writer.flushFromModel unspec beyond snapshot logicView).1 = _
      rw [ih, NormalHmiWriter.flushFromModel]
      dsimp only
      have hnext : BitVec.ofNat 32 (es.countP PageStep.isFlush) + 1 =
          BitVec.ofNat 32 (es.countP PageStep.isFlush + 1) :=
        (BitVec.ofNat_add _ 1).symm
      rw [seq_displayModel, hnext]
      rfl
    | call =>
      rw [PanelPages.step]
      split <;> exact ih
    | bytes chunk => exact ih
    | control op => exact ih

variable {unspec beyond idx m slaveId onWrite} {before after : List PageStep}
  {snapshot logicView : Json} {pre post : List DisplayItem} {it : DisplayItem}

theorem read_after_flush {α : Type} (T : PanelTable α) (hshown : m.shown = pre ++ it :: post)
    (hlast : ∀ x ∈ post, ∀ a ∈ registers x.toItem, a ∉ registers it.toItem) {a : Word}
    (ha : a ∈ registers it.toItem) (haddr : T.IsAddr a) (hafter : ∀ e ∈ after, e.Leaves a)
    (hdone : ((panelPages unspec beyond idx m slaveId onWrite).run
      (before ++ .flush snapshot logicView :: after)).pending = []) {v : α}
    (hset : T.lastSet (itemCalls unspec beyond
      (modelAt (before.countP PageStep.isFlush) snapshot logicView) it) a = some v) :
    T.read ((panelPages unspec beyond idx m slaveId onWrite).run
      (before ++ .flush snapshot logicView :: after)).port.proto.table a = v := by
  have hitems : m.items ≠ [] := by
    intro hnil
    have hmem : it ∈ m.shown := by
      rw [hshown]
      exact List.mem_append_right pre List.mem_cons_self
    obtain ⟨i, -, hi⟩ := List.mem_filterMap.mp hmem
    rw [hnil] at hi
    cases hi
  rw [← T.settled_of_done hdone, Machine.run_append, Machine.runFrom_cons,
    T.settled_runFrom _ haddr hafter]
  show T.settled (PanelPages.step unspec beyond idx _ _) a = v
  rw [T.settled_flush, writer_run unspec beyond idx m slaveId onWrite hitems,
    NormalHmiWriter.flushFromModel]
  dsimp only
  have hcalls : T.lastSet ((pre ++ it :: post).flatMap (itemCalls unspec beyond
      (modelAt (before.countP PageStep.isFlush) snapshot logicView))) a = some v :=
    T.lastSet_flush hlast ha hset
  rw [modelAt] at hcalls
  rw [hshown, hcalls]
  rfl

/-! ### The numbers of the items -/

/-- The number that the data of an answer have from register `i` on. -/
def numberAt (it : HmiMapItem) (resp : List Byte) (i : Nat) : Int :=
  if isDwordMapItem it then
    let w := replyReg resp i ++ replyReg resp (i + 1)
    if isSignedMapItem it then w.toInt else (w.toNat : Int)
  else
    let w := replyReg resp i
    if isSignedMapItem it then w.toInt else (w.toNat : Int)

/-- Every accepted read of all the item's registers gives this number. -/
def ReadsNumber (p : HMIProto) (it : HmiMapItem) (n : Int) : Prop :=
  ∀ req i, p.Accepted req → requestFunc req = 0x04 →
    i + (isDwordMapItem it).toNat < (requestQty req).toNat →
    requestStart req + BitVec.ofNat 16 i = BitVec.ofNat 16 it.addr →
    numberAt it (p.handleRequest req).resp i = n

theorem readsNumber_of_words {p : HMIProto} {it : HmiMapItem} {calls : List HmiCall} {n : Int}
    (hback : readBack it calls = some n)
    (hreads : ∀ w, wordSet calls (BitVec.ofNat 16 it.addr) = some w →
      p.ReadsWord (BitVec.ofNat 16 it.addr) w)
    (hlow : isDwordMapItem it = true → ∀ w, wordSet calls (BitVec.ofNat 16 it.addr + 1) = some w →
      p.ReadsWord (BitVec.ofNat 16 it.addr + 1) w) : ReadsNumber p it n := by
  intro req i hacc hf hi hstart
  rw [readBack] at hback
  rw [numberAt]
  cases hdword : isDwordMapItem it with
  | true =>
    rw [hdword] at hback hi
    obtain ⟨hw, hhi, hrest⟩ := Option.bind_eq_some_iff.mp hback
    obtain ⟨lw, hlo, hn⟩ := Option.map_eq_some_iff.mp hrest
    have hnext : requestStart req + BitVec.ofNat 16 (i + 1) = BitVec.ofNat 16 it.addr + 1 := by
      rw [BitVec.ofNat_add, ← BitVec.add_assoc, hstart]
      rfl
    have hi : i + 1 < (requestQty req).toNat := hi
    rw [if_pos rfl, hreads hw hhi req i hacc hf (by omega) hstart,
      hlow hdword lw hlo req (i + 1) hacc hf hi hnext]
    exact hn
  | false =>
    rw [hdword] at hback hi
    obtain ⟨w, hw, hn⟩ := Option.map_eq_some_iff.mp hback
    rw [if_neg Bool.false_ne_true, hreads w hw req i hacc hf hi hstart]
    exact hn

/-- The model leads to this value for the item, which is not made of two halves: by its path, or
by the default where nothing is there. -/
structure LeadsTo (j : Json) (it : ScaledItem) (v : ℚ) : Prop where
  noHalf : ¬ HasLowHalf (resolvePathCompat j) it
  inside : ¬ AtBorder (rawValue it v)
  value : (∃ node, resolvePathCompat j it.path = some node ∧ toNumber node = some v) ∨
    resolvePathCompat j it.path = none ∧ v = it.dflt.getD 0 ∧ FitsDword it

theorem LeadsTo.readBack {unspec : Int} {j : Json} {it : ScaledItem} {v : ℚ} (h : LeadsTo j it v)
    (hint : IsShownInt it.toItem) :
    readBack it.toItem (writeInt unspec (resolvePathCompat j) it) = some (shownFor it v) := by
  rcases h.value with ⟨node, hnode, hv⟩ | ⟨hnone, rfl, hfits⟩
  · exact shown_of_present hint hnode hv h.noHalf h.inside
  · have hsame := @writeInt_default unspec it (resolvePathCompat j) (.float (it.dflt.getD 0)) hint
      hnone rfl h.noHalf hfits
    rw [hsame]
    exact shown_of_present hint (Function.update_self _ _ _) rfl (no_half_update h.noHalf _)
      h.inside

theorem itemCalls_int {j : Json} {it : DisplayItem}
    (hint : ¬ (it.type = .boolRead ∨ it.type = .bit)) :
    itemCalls unspec beyond j it = writeInt unspec (resolvePathCompat j) it.toScaled := by
  have hvalue : itemValue unspec beyond j it =
      intValue unspec (resolvePathCompat j) it.toScaled := by
    unfold itemValue
    split
    · exact absurd (Or.inl ‹_›) hint
    · exact absurd (Or.inr ‹_›) hint
    · rfl
  rw [itemCalls, hvalue, writeInt]

theorem itemCalls_bool {j : Json} {it : DisplayItem} (hw : isWritten it.toItem = true)
    (hbool : it.type = .boolRead ∨ it.type = .bit) :
    itemCalls unspec beyond j it =
      [.setBoolRead (BitVec.ofNat 16 it.addr) (itemValue unspec beyond j it).bit] := by
  rw [itemCalls, writeItem, hw, if_neg (by decide), if_pos hbool]

/-- However the calls of a flush, other writes of the controller and bytes from the panel follow
each other: when the calls are made, and until something else sets the registers of an item, the
panel reads there what the last flush found, a bit as it was computed and a number scaled, rounded
and limited; the halves that are shown as they are come from one flush. -/
theorem panel_reads_flush (hshown : m.shown = pre ++ it :: post)
    (hlast : ∀ x ∈ post, ∀ a ∈ registers x.toItem, a ∉ registers it.toItem)
    (hw : isWritten it.toItem = true)
    (hafter : ∀ a ∈ registers it.toItem, ∀ e ∈ after, e.Leaves a)
    (hdone : ((panelPages unspec beyond idx m slaveId onWrite).run
      (before ++ .flush snapshot logicView :: after)).pending = []) :
    let p := ((panelPages unspec beyond idx m slaveId onWrite).run
      (before ++ .flush snapshot logicView :: after)).port.proto
    let j := modelAt (before.countP PageStep.isFlush) snapshot logicView
    let addr : Word := BitVec.ofNat 16 it.addr
    (it.type = .boolRead ∨ it.type = .bit → HmiAddressTable.IsDiscrete addr →
      p.ReadsBit addr (itemValue unspec beyond j it).bit) ∧
    (¬ (it.type = .boolRead ∨ it.type = .bit) →
      (∀ a ∈ registers it.toItem, HmiAddressTable.IsInput a) →
      (∀ v, LeadsTo j it.toScaled v → ReadsNumber p it.toItem (shownFor it.toScaled v)) ∧
      ∀ hi lo, 2 ≤ it.words → it.path.endsWith "_hi" = true →
        (resolvePathCompat j it.path).bind toNumber = some hi →
        (resolvePathCompat j (loPath it.path)).bind toNumber = some lo →
        p.ReadsWord addr (packRawU16 (roundToI64 unspec hi)) ∧
          p.ReadsWord (addr + 1) (packRawU16 (roundToI64 unspec lo))) := by
  intro p j addr
  have hfirst : addr ∈ registers it.toItem := by
    rw [registers]
    split_ifs <;> exact List.mem_cons_self
  have hword : ∀ a ∈ registers it.toItem, HmiAddressTable.IsInput a → ∀ w,
      wordSet (itemCalls unspec beyond j it) a = some w → p.ReadsWord a w := by
    intro a ha hinput w hset
    rw [← lastSet_wordTable] at hset
    have hread := read_after_flush inputRegisters hshown hlast ha hinput (hafter a ha) hdone hset
    rw [← hread]
    exact readsWord_table hinput
  refine ⟨fun hbool hdiscrete => ?_, fun hint hinput => ?_⟩
  · have hset : bitTable.lastSet (itemCalls unspec beyond j it) addr =
        some (itemValue unspec beyond j it).bit := by
      rw [itemCalls_bool hw hbool]
      simp [ReadTable.lastSet, bitTable, addr]
    have hread := read_after_flush discreteInputs hshown hlast hfirst hdiscrete
      (hafter addr hfirst) hdone hset
    rw [← hread]
    exact readsBit_table hdiscrete
  · have hshownInt : IsShownInt it.toItem := ⟨hw, hint⟩
    have hsecond : isDwordMapItem it.toItem = true → addr + 1 ∈ registers it.toItem := by
      intro hdword
      have htwo : writesTwo it.toItem = true := by
        rw [not_or] at hint
        simp [writesTwo, hw, hdword, hint.1, hint.2]
      rw [registers, if_pos htwo]
      exact List.mem_cons_of_mem _ List.mem_cons_self
    have hcalls : itemCalls unspec beyond j it =
        writeInt unspec (resolvePathCompat j) it.toScaled := itemCalls_int hint
    rw [hcalls] at hword
    refine ⟨fun v hv => ?_, fun hi lo hwide hends hhi hlo => ?_⟩
    · exact readsNumber_of_words (hv.readBack hshownInt) (hword addr hfirst (hinput addr hfirst))
        fun hdword => hword (addr + 1) (hsecond hdword) (hinput _ (hsecond hdword))
    · obtain ⟨hiNode, hhiNode, hhiv⟩ := Option.bind_eq_some_iff.mp hhi
      obtain ⟨loNode, hloNode, hlov⟩ := Option.bind_eq_some_iff.mp hlo
      have hhalf := @writeInt_of_half unspec _ _ _ _ _ _ hshownInt hwide hends hhiNode hhiv hloNode
        hlov
      have hdword := isDwordMapItem_of_wide hwide
      rw [hhalf] at hword
      refine ⟨hword addr hfirst (hinput addr hfirst) _ ?_,
        hword (addr + 1) (hsecond hdword) (hinput _ (hsecond hdword)) _ ?_⟩
      · simp [wordSet, addr]
      · simp [wordSet, addr]

end Run

/-- The sequence number, in one register, and the alarm of the gas detector. -/
def seqItem : DisplayItem :=
  { type := .intRead, hasAddr := true, addr := 0x4000, path := "system.normal_seq" }

def gasItem : DisplayItem :=
  { type := .boolRead, hasAddr := true, addr := 0x3000, path := "system.gas_alarm" }

def seqAndGas : DisplayMap := ⟨[seqItem, gasItem], [0, 1]⟩

def gasSnapshot (alarm : Bool) : Json :=
  .object [("system", .object [("gas_alarm", .boolean alarm)])]

/-- The second of two flushes; the panel sends half a request between its calls. -/
def secondFlush : List PageStep := [.call, .bytes [0x03, 0x04, 0x40], .call]

theorem resolve_seq :
    resolvePathCompat (modelAt 1 (gasSnapshot true) .null) "system.normal_seq" =
      some (.unsigned 2) := by
  have htokens : pathTokens "system.normal_seq" = ["system", "normal_seq"] := by decide +kernel
  rw [resolvePathCompat, htokens]
  rfl

/-- A run of which this is the last flush. -/
def flushedTwice : List PageStep :=
  [.flush (gasSnapshot false) .null, .call, .call] ++
    .flush (gasSnapshot true) .null :: secondFlush

theorem panel_reads_flush_second :
    ReadsNumber ((panelPages 0 (fun u _ => u) 3 seqAndGas 0x03 true).run flushedTwice).port.proto
      seqItem.toItem (shownFor seqItem.toScaled 2) := by
  have hseq : registers seqItem.toItem = [0x4000] := by decide +kernel
  have hgas : registers gasItem.toItem = [0x3000] := by decide +kernel
  have hshown : seqAndGas.shown = [] ++ seqItem :: [gasItem] := rfl
  have hlast : ∀ x ∈ [gasItem], ∀ a ∈ registers x.toItem, a ∉ registers seqItem.toItem := by
    rw [List.forall_mem_singleton, hgas, hseq, List.forall_mem_singleton]
    decide
  have hafter : ∀ a ∈ registers seqItem.toItem, ∀ e ∈ secondFlush, e.Leaves a := by
    intro a _ e he
    simp only [secondFlush, List.mem_cons, List.not_mem_nil, or_false] at he
    rcases he with rfl | rfl | rfl <;> trivial
  have hdone : ((panelPages 0 (fun u _ => u) 3 seqAndGas 0x03 true).run
      flushedTwice).pending = [] := List.isEmpty_iff.mp (by decide +kernel)
  have hraw : rawValue seqItem.toScaled 2 = 2 := by
    norm_num [rawValue, limited, usedScale, seqItem]
  have hleads : LeadsTo (modelAt 1 (gasSnapshot true) .null) seqItem.toScaled 2 := by
    refine ⟨fun h => absurd h.1 (by decide), ?_, Or.inl ⟨_, resolve_seq, rfl⟩⟩
    rw [hraw, AtBorder]
    norm_num
  have hread := panel_reads_flush hshown hlast (by decide +kernel) hafter hdone
  refine (hread.2 (by decide) ?_).1 2 hleads
  rw [hseq, List.forall_mem_singleton]
  decide

end App
end EnergyStorage

import EnergyStorage.Logic.ControlLoop

/-! # Parameters of two words

A request that writes a parameter of two registers becomes two events, and the engine
puts the parameter together on each of them.  On the first one the high word is new and
the low word is that of the request before. -/

namespace EnergyStorage
namespace Logic

open Lib

/-! ### One parameter and its words -/

/-- The map has one parameter of two words, at `base`, that is kept under `path`. -/
structure TwoWordParam (map : Option HmiMapModel) (base : Word) (path : String) : Prop where
  inSpace : base.toNat + 1 < 2 ^ 16
  isParam : path.startsWith "hmi.param." = true
  covers : ∀ addr, addr = base.toNat ∨ addr = base.toNat + 1 →
    ∃ item, findHmiWriteItemByAddress map addr .intRw = some item ∧ item.path = path ∧
      item.words = 2 ∧ item.baseAddr = base.toNat
  only : ∀ addr item, findHmiWriteItemByAddress map addr .intRw = some item →
    item.path = path → addr = base.toNat ∨ addr = base.toNat + 1

inductive ParamWord
  | high (v : Nat)
  | low (v : Nat)
  deriving DecidableEq

def wordAt (base : Word) (addr v : Nat) : Option ParamWord :=
  if addr = base.toNat then some (.high v)
  else if addr = base.toNat + 1 then some (.low v)
  else none

def writeWord (base : Word) : HmiWrite → Option ParamWord
  | .coil _ _ => none
  | .holding a v => wordAt base a.toNat v.toNat

def reportWord (base : Word) (ev : EnergyStorage.HmiWriteEvent) : Option ParamWord :=
  if ev.isBool then none else wordAt base ev.addr.toNat ev.valueU16.toNat

def eventWord (base : Word) (e : Event) : Option ParamWord :=
  match e.body with
  | .hmiWrite w => if w.bits ≠ [] then none else wordAt base w.startAddr w.firstRegOrZero
  | _ => none

theorem readsReports (base : Word) : ReadsReports (eventWord base) (reportWord base) where
  callback ev nowMs := by
    obtain ⟨addr, isBool, v, isMulti⟩ := ev
    cases isBool <;> rfl
  other e he := by
    obtain ⟨tsMs, body⟩ := e
    cases body with
    | hmiWrite w => exact absurd ⟨w, rfl⟩ he
    | _ => rfl

theorem reportWord_event (base : Word) (isMulti : Bool) (w : HmiWrite) :
    reportWord base (w.event isMulti) = writeWord base w := by
  cases w <;> rfl

/-- The value that a high and a low word make. -/
def combine (hi lo : Nat) : Int := (BitVec.ofNat 32 (hi * 2 ^ 16 ||| lo)).toInt

theorem combine_inj {hi lo hi' lo' : Nat} (hhi : hi < 2 ^ 16) (hlo : lo < 2 ^ 16)
    (hhi' : hi' < 2 ^ 16) (hlo' : lo' < 2 ^ 16) (h : combine hi lo = combine hi' lo') :
    hi = hi' ∧ lo = lo' := by
  have hsum : ∀ a b : Nat, b < 2 ^ 16 → a * 2 ^ 16 ||| b = a * 2 ^ 16 + b := by
    intro a b hb
    rw [Nat.mul_comm, Nat.two_pow_add_eq_or_of_lt hb]
  rw [combine, combine, BitVec.toInt_inj, hsum hi lo hlo, hsum hi' lo' hlo'] at h
  have hnat := congrArg BitVec.toNat h
  rw [BitVec.toNat_ofNat, BitVec.toNat_ofNat, Nat.mod_eq_of_lt (by omega),
    Nat.mod_eq_of_lt (by omega)] at hnat
  omega

/-! ### One event of the engine -/

/-- The two registers of a parameter. -/
structure ParamRegs where
  hi : Nat := 0
  lo : Nat := 0

namespace ParamRegs

def write (r : ParamRegs) : ParamWord → ParamRegs
  | .high v => { r with hi := v }
  | .low v => { r with lo := v }

def value (r : ParamRegs) : Int := combine r.hi r.lo

end ParamRegs

def regsOf (base : Word) (h : HmiControl) : ParamRegs :=
  ⟨regStateOrZero h.hmiRegState base.toNat, regStateOrZero h.hmiRegState (base.toNat + 1)⟩

/-- A stored register write as the cache keeps it. -/
theorem regStateOrZero_cacheWrittenRegs {startAddr : Nat} (h : startAddr ≤ 0xFFFF) (v addr : Nat)
    (st : Dict Nat Nat) :
    regStateOrZero (cacheWrittenRegs startAddr [v] st) addr =
      if addr = startAddr then v else regStateOrZero st addr := by
  have hcache : cacheWrittenRegs startAddr [v] st = st.insert startAddr v := by
    show (if startAddr + 0 > 0xFFFF then st else st.insert (startAddr + 0) v) = _
    rw [if_neg (by omega), Nat.add_zero]
  rw [hcache, regStateOrZero, Dict.get_insert]
  by_cases haddr : addr = startAddr
  · rw [if_pos haddr, if_pos haddr, Option.getD_some]
  · rw [if_neg haddr, if_neg haddr, regStateOrZero]

/-- Nothing of the parameters changes. -/
def SameParams (h h' : HmiControl) : Prop :=
  h'.hmiRegState = h.hmiRegState ∧ h'.hmiParamValues = h.hmiParamValues

theorem handleHmiCoilWrite_sameParams (map : Option HmiMapModel) (ts : Nat) (w : HmiWriteEvent)
    (h : HmiControl) : SameParams h (handleHmiCoilWrite map ts w h) := by
  have hclick : ∀ addr path name (h' : HmiControl), SameParams h h' →
      SameParams h (onHmiButtonClick addr path name ts h') := by
    intro addr path name h' hsame
    unfold onHmiButtonClick
    split
    · exact hsame
    split
    · exact hsame
    · exact hsame
  unfold handleHmiCoilWrite
  dsimp only
  split
  · exact ⟨rfl, rfl⟩
  split
  · exact ⟨rfl, rfl⟩
  split
  · exact hclick _ _ _ _ ⟨rfl, rfl⟩
  · exact ⟨rfl, rfl⟩

theorem onDeviceData_sameParams (d : DeviceData) (ts : Nat) (ctx : LogicContext) :
    SameParams ctx.hmi (onDeviceData d ts ctx).hmi ∧
      (onDeviceData d ts ctx).hmiMap = ctx.hmiMap := by
  have hpcu : (updatePcuOnlineState d ts ctx).hmi = ctx.hmi ∧
      (updatePcuOnlineState d ts ctx).hmiMap = ctx.hmiMap := by
    unfold updatePcuOnlineState
    split <;> exact ⟨rfl, rfl⟩
  unfold onDeviceData
  split
  · exact ⟨⟨rfl, rfl⟩, rfl⟩
  split
  · exact ⟨⟨rfl, rfl⟩, rfl⟩
  split
  · exact ⟨⟨rfl, rfl⟩, rfl⟩
  split
  · exact ⟨⟨rfl, rfl⟩, rfl⟩
  split
  · exact ⟨⟨rfl, rfl⟩, rfl⟩
  split
  · rw [hpcu.1, hpcu.2]
    exact ⟨⟨rfl, rfl⟩, rfl⟩
  · exact ⟨⟨rfl, rfl⟩, rfl⟩

section Param

variable {map : Option HmiMapModel} {base : Word} {path : String}

theorem regsOf_write (base : Word) {addr v : Nat} (haddr : addr ≤ 0xFFFF) {h h' : HmiControl}
    (hstate : h'.hmiRegState = cacheWrittenRegs addr [v] h.hmiRegState) :
    regsOf base h' =
      match wordAt base addr v with
      | some word => (regsOf base h).write word
      | none => regsOf base h := by
  rw [regsOf, hstate, regStateOrZero_cacheWrittenRegs haddr, regStateOrZero_cacheWrittenRegs haddr,
    wordAt]
  by_cases hhigh : addr = base.toNat
  · rw [if_pos hhigh, if_pos hhigh.symm, if_neg (by omega)]
    rfl
  · by_cases hlow : addr = base.toNat + 1
    · rw [if_neg hhigh, if_pos hlow, if_neg (Ne.symm hhigh), if_pos hlow.symm]
      rfl
    · rw [if_neg hhigh, if_neg hlow, if_neg (Ne.symm hhigh), if_neg (Ne.symm hlow)]
      rfl

/-- From `h` to `h'` the parameter takes the word, if any. -/
def Takes (base : Word) (path : String) (word : Option ParamWord) (h h' : HmiControl) : Prop :=
  match word with
  | some word => regsOf base h' = (regsOf base h).write word ∧
      h'.hmiParamValues.get path = some ((regsOf base h).write word).value
  | none => regsOf base h' = regsOf base h ∧ h'.hmiParamValues.get path = h.hmiParamValues.get path

theorem takes_none {h h' : HmiControl} (hsame : SameParams h h') : Takes base path none h h' := by
  obtain ⟨hregs, hvals⟩ := hsame
  rw [Takes, regsOf, regsOf, hregs, hvals]
  exact ⟨rfl, rfl⟩

/-- A register write of one word. -/
theorem handleHmiRegWrite_param (hp : TwoWordParam map base path) {w : HmiWriteEvent} {v : Nat}
    (hregs : w.regs = [v]) (haddr : w.startAddr ≤ 0xFFFF) (h : HmiControl) :
    Takes base path (wordAt base w.startAddr v) h (handleHmiRegWrite map w h) := by
  have hspace := hp.inSpace
  obtain ⟨h1, hh1⟩ : ∃ h1 : HmiControl, h1 = { h with
    lastHmiValue := w.firstRegOrZero
    hmiRegState := cacheWrittenRegs w.startAddr w.regs h.hmiRegState } := ⟨_, rfl⟩
  have hnone (hfind : findHmiWriteItemByAddress map w.startAddr .intRw = none) :
      handleHmiRegWrite map w h = h1 := by
    rw [handleHmiRegWrite, hfind, hh1]
  have hsome (item : HmiMappedWriteItem)
      (hfind : findHmiWriteItemByAddress map w.startAddr .intRw = some item) :
      handleHmiRegWrite map w h =
        if item.path.startsWith "hmi.param." then
          cacheHmiParam item.baseAddr (readMappedRegValue h1.hmiRegState item) item.path item.name
            w.tsMs h1
        else h1 := by
    rw [handleHmiRegWrite, hfind, hh1]
  have hstate : h1.hmiRegState = cacheWrittenRegs w.startAddr [v] h.hmiRegState := by
    rw [hh1, hregs]
  have hvals : h1.hmiParamValues = h.hmiParamValues := by rw [hh1]
  by_cases hmine : w.startAddr = base.toNat ∨ w.startAddr = base.toNat + 1
  · obtain ⟨item, hfind, hpath, hwords, hbase⟩ := hp.covers w.startAddr hmine
    obtain ⟨word, hword⟩ : ∃ word, wordAt base w.startAddr v = some word := by
      rw [wordAt]
      obtain hmine | hmine := hmine
      · exact ⟨_, if_pos hmine⟩
      · exact ⟨_, by rw [if_neg (by omega), if_pos hmine]⟩
    have hcache := regsOf_write base haddr hstate
    rw [hword] at hcache ⊢
    rw [hsome item hfind, hpath, if_pos hp.isParam]
    have hread : readMappedRegValue h1.hmiRegState item = (regsOf base h1).value := by
      rw [readMappedRegValue, if_pos (by omega), hbase, Nat.mod_eq_of_lt hspace]
      rfl
    change regsOf base h1 = (regsOf base h).write word at hcache
    refine ⟨hcache, ?_⟩
    rw [← hcache, ← hread]
    exact Dict.get_insert_self _ _ _
  · obtain ⟨hhigh, hlow⟩ := not_or.mp hmine
    have hword : wordAt base w.startAddr v = none := by
      rw [wordAt, if_neg hhigh, if_neg hlow]
    have hcache := regsOf_write base haddr hstate
    rw [hword] at hcache ⊢
    change regsOf base h1 = regsOf base h at hcache
    cases hfind : findHmiWriteItemByAddress map w.startAddr .intRw with
    | none =>
      rw [hnone hfind]
      exact ⟨hcache, by rw [hvals]⟩
    | some item =>
      rw [hsome item hfind]
      split
      · refine ⟨hcache, ?_⟩
        rw [← hvals]
        refine Dict.get_insert_of_ne _ ?_ _
        intro hpath
        exact hmine (hp.only w.startAddr item hfind hpath.symm)
      · exact ⟨hcache, by rw [hvals]⟩

/-- An event takes to the parameter what it holds for it. -/
theorem onEvent_takes (hp : TwoWordParam map base path) {s : LogicState}
    (hmap : s.ctx.hmiMap = map) {e : Event} (he : Posted e) :
    Takes base path (eventWord base e) s.ctx.hmi (LogicEngine.onEvent s e).1.ctx.hmi := by
  by_cases hwrite : IsHmiWrite e
  · obtain ⟨⟨addr, isBool, v, isMulti⟩, nowMs, rfl⟩ := he hwrite
    rw [(readsReports base).callback]
    cases isBool with
    | true =>
      apply takes_none
      exact handleHmiCoilWrite_sameParams _ _ _ _
    | false =>
      have haddr := addr.isLt
      show Takes base path _ _ (handleHmiRegWrite s.ctx.hmiMap _ _)
      rw [hmap]
      have hreg := handleHmiRegWrite_param hp
        (w := { startAddr := addr.toNat, regs := [v.toNat], tsMs := nowMs }) (v := v.toNat) rfl
        (show addr.toNat ≤ 0xFFFF by omega)
        { s.ctx.hmi with lastHmiCommTs := nowMs, lastHmiAddr := addr.toNat, hmiSeenOnce := true }
      exact hreg
  · rw [(readsReports base).other e hwrite]
    apply takes_none
    obtain ⟨tsMs, body⟩ := e
    cases body with
    | deviceData d => exact (onDeviceData_sameParams d tsMs { s.ctx with lastEventTs := tsMs }).1
    | hmiWrite w => exact absurd ⟨w, rfl⟩ hwrite
    | snapshot _ | hmiHeartbeat | ioSample _ | tick _ | stop => exact ⟨rfl, rfl⟩

end Param

/-! ### The values of a run -/

/-- The values that words make one after the other. -/
def valuesFrom (r : ParamRegs) : List ParamWord → List Int
  | [] => []
  | word :: words => (r.write word).value :: valuesFrom (r.write word) words

theorem valuesFrom_snoc (r : ParamRegs) (words : List ParamWord) (word : ParamWord) :
    valuesFrom r (words ++ [word]) =
      valuesFrom r words ++ [((words.foldl ParamRegs.write r).write word).value] := by
  induction words generalizing r with
  | nil => rfl
  | cons w words ih => rw [List.cons_append, valuesFrom, ih, valuesFrom, List.cons_append]; rfl

/-- The value that a step of the control thread stores under the parameter's path. -/
def storedValue (base : Word) (s : PanelState) : PanelEvent → Option Int
  | .take => (s.loop.next.bind (eventWord base)).map fun word =>
    ((regsOf base s.logic.ctx.hmi).write word).value
  | _ => none

section Run

variable {sys : Option (List CanLinkCfg)} {map : Option HmiMapModel} {slaveId : Byte}
variable {base : Word} {path : String}

/-- The words of the parameter that the control thread has taken. -/
def handledWords (sys : Option (List CanLinkCfg)) (map : Option HmiMapModel) (slaveId : Byte)
    (base : Word) (es : List PanelEvent) : List ParamWord :=
  (panelLoop sys map slaveId).trace (handled (eventWord base)) es

theorem hmiMap_onEvent (s : LogicState) (e : Event) :
    (LogicEngine.onEvent s e).1.ctx.hmiMap = s.ctx.hmiMap := by
  obtain ⟨tsMs, body⟩ := e
  cases body with
  | deviceData d => exact (onDeviceData_sameParams d tsMs { s.ctx with lastEventTs := tsMs }).2
  | snapshot _ | hmiWrite _ | hmiHeartbeat | ioSample _ | tick _ | stop => rfl

theorem hmiMap_run (es : List PanelEvent) :
    ((panelLoop sys map slaveId).run es).logic.ctx.hmiMap = map := by
  apply Machine.Invariant.run (I := fun s : PanelState => s.logic.ctx.hmiMap = map)
  constructor
  · rfl
  · intro s e h
    cases e with
    | slave _ => exact h
    | post _ => exact h
    | report nowMs =>
      obtain ⟨slave, _ | ⟨ev, rest⟩, loop, logic⟩ := s
      · exact h
      · exact h
    | take =>
      show (panelStep s .take).1.logic.ctx.hmiMap = map
      cases hpop : s.loop.popEvent with
      | none => rw [step_take_none hpop, h]
      | some r =>
        obtain ⟨x, loop⟩ := r
        rw [step_take_some hpop, hmiMap_onEvent, h]

/-- Only the control thread changes the parameter, by the word it takes. -/
theorem step_takes (hp : TwoWordParam map base path) (pre : List PanelEvent) (e : PanelEvent) :
    let s := (panelLoop sys map slaveId).run pre
    ∃ word, handled (eventWord base) s e = word.toList ∧
      storedValue base s e =
        word.map (fun word => ((regsOf base s.logic.ctx.hmi).write word).value) ∧
      Takes base path word s.logic.ctx.hmi (panelStep s e).1.logic.ctx.hmi := by
  intro s
  have hq := (handled_append_queued sys map slaveId (readsReports base) pre).1
  have hmap : s.logic.ctx.hmiMap = map := hmiMap_run pre
  change QueuesOk s.loop at hq
  generalize s = s at hq hmap
  cases e with
  | slave _ => exact ⟨none, rfl, rfl, rfl, rfl⟩
  | post _ => exact ⟨none, rfl, rfl, rfl, rfl⟩
  | report nowMs =>
    obtain ⟨slave, _ | ⟨ev, rest⟩, loop, logic⟩ := s
    · exact ⟨none, rfl, rfl, rfl, rfl⟩
    · exact ⟨none, rfl, rfl, rfl, rfl⟩
  | take =>
    refine ⟨s.loop.next.bind (eventWord base), rfl, rfl, ?_⟩
    rw [ControlLoop.next]
    cases hpop : s.loop.popEvent with
    | none =>
      rw [step_take_none hpop]
      exact ⟨rfl, rfl⟩
    | some r =>
      obtain ⟨x, loop⟩ := r
      obtain ⟨-, hposted, -⟩ := popEvent_spec (readsReports base).other hq hpop
      rw [step_take_some hpop]
      exact onEvent_takes hp hmap hposted

/-- The registers hold the words taken, the path the last value they make, and the values
stored on the way are those that the words make. -/
theorem param_run (hp : TwoWordParam map base path) (es : List PanelEvent) :
    regsOf base ((panelLoop sys map slaveId).run es).logic.ctx.hmi =
        (handledWords sys map slaveId base es).foldl ParamRegs.write {} ∧
      ((panelLoop sys map slaveId).run es).logic.ctx.hmi.hmiParamValues.get path =
        (panelLoop sys map slaveId).latest (storedValue base) es ∧
      (panelLoop sys map slaveId).trace (fun s e => (storedValue base s e).toList) es =
        valuesFrom {} (handledWords sys map slaveId base es) := by
  induction es using List.reverseRecOn with
  | nil => exact ⟨rfl, rfl, rfl⟩
  | append_singleton pre e ih =>
    obtain ⟨hregs, hvalue, htrace⟩ := ih
    obtain ⟨word, hhandled, hstored, htakes⟩ := @step_takes sys map slaveId base path hp pre e
    have hwords : handledWords sys map slaveId base (pre ++ [e]) =
        handledWords sys map slaveId base pre ++ word.toList := by
      rw [handledWords, Machine.trace_snoc, hhandled]
      rfl
    rw [Machine.run_snoc, Machine.latest_snoc, Machine.trace_snoc, hwords, hstored, ← hvalue,
      htrace]
    change Takes base path word _ ((panelLoop sys map slaveId).step _ e).1.logic.ctx.hmi at htakes
    cases word with
    | none =>
      rw [Option.toList_none, List.append_nil, ← hregs]
      exact ⟨htakes.1, htakes.2, List.append_nil _⟩
    | some w =>
      rw [Option.toList_some, List.foldl_append, ← hregs, valuesFrom_snoc, ← hregs]
      exact ⟨htakes.1, htakes.2, rfl⟩

end Run

/-! ### The words of the requests -/

/-- The values that a request writes to the two registers, if it writes both. -/
def pairOf : List ParamWord → List (Nat × Nat)
  | [.high h, .low l] => [(h, l)]
  | _ => []

def requestWords (base : Word) (p : HMIProto) (r : HmiRequest) : List ParamWord :=
  (p.writes (.request r)).filterMap (writeWord base)

/-- What a request of the run writes to the parameter. -/
def requestPair (base : Word) (s : PanelState) : PanelEvent → List (Nat × Nat)
  | .slave (.request r) => pairOf (requestWords base s.slave r)
  | _ => []

theorem writeWord_eq_some {base : Word} {w : HmiWrite} {word : ParamWord}
    (h : writeWord base w = some word) :
    (∃ v : Word, w = .holding base v ∧ word = .high v.toNat) ∨
      ∃ a v : Word, a.toNat = base.toNat + 1 ∧ w = .holding a v ∧ word = .low v.toNat := by
  cases w with
  | coil a v => cases h
  | holding a v =>
    rw [writeWord, wordAt] at h
    split at h
    · next ha => exact Or.inl ⟨v, by rw [BitVec.eq_of_toNat_eq ha], (Option.some_inj.mp h).symm⟩
    split at h
    · next ha => exact Or.inr ⟨a, v, ha, rfl, (Option.some_inj.mp h).symm⟩
    · cases h

/-- The addresses of a request come in order, so it writes each register once at most, and
the high word first. -/
theorem requestWords_cases (base : Word) (p : HMIProto) (r : HmiRequest) :
    requestWords base p r = [] ∨ (∃ h, requestWords base p r = [.high h]) ∨
      (∃ l, requestWords base p r = [.low l]) ∨
        ∃ h l, requestWords base p r = [.high h, .low l] := by
  have hsorted : (requestWords base p r).Pairwise fun x y =>
      ∃ h l, x = .high h ∧ y = .low l := by
    refine List.Pairwise.filterMap (writeWord base) ?_ (p.pairwise_writes r)
    intro w w' hlt word hword word' hword'
    obtain ⟨v, rfl, rfl⟩ | ⟨a, v, ha, rfl, rfl⟩ := writeWord_eq_some hword
    · obtain ⟨v', rfl, rfl⟩ | ⟨a', v', ha', rfl, rfl⟩ := writeWord_eq_some hword'
      · exact absurd hlt (Nat.lt_irrefl _)
      · exact ⟨_, _, rfl, rfl⟩
    · change a.toNat < w'.addr.toNat at hlt
      obtain ⟨v', rfl, -⟩ | ⟨a', v', ha', rfl, -⟩ := writeWord_eq_some hword'
      · change a.toNat < base.toNat at hlt
        omega
      · change a.toNat < a'.toNat at hlt
        omega
  generalize requestWords base p r = words at hsorted ⊢
  match words with
  | [] => exact Or.inl rfl
  | [.high h] => exact Or.inr (Or.inl ⟨h, rfl⟩)
  | [.low l] => exact Or.inr (Or.inr (Or.inl ⟨l, rfl⟩))
  | x :: y :: rest =>
    obtain ⟨hx, htail⟩ := List.pairwise_cons.mp hsorted
    obtain ⟨h, l, rfl, rfl⟩ := hx y List.mem_cons_self
    cases rest with
    | nil => exact Or.inr (Or.inr (Or.inr ⟨h, l, rfl⟩))
    | cons z rest =>
      obtain ⟨_, _, hlow, -⟩ := (List.pairwise_cons.mp htail).1 z List.mem_cons_self
      cases hlow

/-- A request that writes one register of the parameter writes both. -/
def WritesBoth (base : Word) (p : HMIProto) (r : HmiRequest) : Prop :=
  (∃ v, .holding base v ∈ p.writes (.request r)) ↔
    ∃ v, .holding (base + 1) v ∈ p.writes (.request r)

/-- The words of a pair, in the order of their addresses. -/
def wordsOf (p : Nat × Nat) : List ParamWord := [.high p.1, .low p.2]

theorem requestWords_eq {base : Word} (hspace : base.toNat + 1 < 2 ^ 16) {p : HMIProto}
    {r : HmiRequest} (hboth : WritesBoth base p r) :
    requestWords base p r = (pairOf (requestWords base p r)).flatMap wordsOf := by
  have hnext : (base + 1).toNat = base.toNat + 1 := by
    rw [BitVec.toNat_add]
    exact Nat.mod_eq_of_lt hspace
  have hhigh : (∃ h, .high h ∈ requestWords base p r) ↔
      ∃ v, .holding base v ∈ p.writes (.request r) := by
    constructor
    · rintro ⟨h, hmem⟩
      obtain ⟨w, hw, hword⟩ := List.mem_filterMap.mp hmem
      obtain ⟨v, rfl, -⟩ | ⟨_, _, -, -, hlow⟩ := writeWord_eq_some hword
      · exact ⟨v, hw⟩
      · cases hlow
    · rintro ⟨v, hmem⟩
      exact ⟨v.toNat, List.mem_filterMap.mpr ⟨_, hmem, if_pos rfl⟩⟩
  have hlow : (∃ l, .low l ∈ requestWords base p r) ↔
      ∃ v, .holding (base + 1) v ∈ p.writes (.request r) := by
    constructor
    · rintro ⟨l, hmem⟩
      obtain ⟨w, hw, hword⟩ := List.mem_filterMap.mp hmem
      obtain ⟨_, -, hhigh⟩ | ⟨a, v, ha, rfl, -⟩ := writeWord_eq_some hword
      · cases hhigh
      · rw [← hnext] at ha
        exact ⟨v, BitVec.eq_of_toNat_eq ha ▸ hw⟩
    · rintro ⟨v, hmem⟩
      refine ⟨v.toNat, List.mem_filterMap.mpr ⟨_, hmem, ?_⟩⟩
      rw [writeWord, wordAt, hnext, if_neg (by omega), if_pos rfl]
  have hwords : (∃ h, .high h ∈ requestWords base p r) ↔ ∃ l, .low l ∈ requestWords base p r := by
    rw [hhigh, hlow]
    exact hboth
  obtain heq | ⟨h, heq⟩ | ⟨l, heq⟩ | ⟨h, l, heq⟩ := requestWords_cases base p r
  · rw [heq]
    rfl
  · rw [heq] at hwords
    obtain ⟨l, hmem⟩ := hwords.mp ⟨h, List.mem_singleton_self _⟩
    cases List.mem_singleton.mp hmem
  · rw [heq] at hwords
    obtain ⟨h, hmem⟩ := hwords.mpr ⟨l, List.mem_singleton_self _⟩
    cases List.mem_singleton.mp hmem
  · rw [heq]
    rfl

theorem lt_of_mem_pairOf {base : Word} {p : HMIProto} {r : HmiRequest} {pair : Nat × Nat}
    (h : pair ∈ pairOf (requestWords base p r)) : pair.1 < 2 ^ 16 ∧ pair.2 < 2 ^ 16 := by
  have hbound : ∀ word ∈ requestWords base p r, ∀ v, word = .high v ∨ word = .low v →
      v < 2 ^ 16 := by
    intro word hmem v hv
    obtain ⟨w, -, hword⟩ := List.mem_filterMap.mp hmem
    obtain ⟨x, -, rfl⟩ | ⟨_, x, -, -, rfl⟩ := writeWord_eq_some hword
    · obtain hv | hv := hv
      · cases hv; exact x.isLt
      · cases hv
    · obtain hv | hv := hv
      · cases hv
      · cases hv; exact x.isLt
  obtain heq | ⟨hi, heq⟩ | ⟨lo, heq⟩ | ⟨hi, lo, heq⟩ := requestWords_cases base p r
  all_goals rw [heq] at h hbound
  · cases h
  · cases h
  · cases h
  · rw [List.mem_singleton.mp h]
    exact ⟨hbound _ List.mem_cons_self hi (Or.inl rfl),
      hbound (.low lo) (List.mem_cons_of_mem _ List.mem_cons_self) lo (Or.inr rfl)⟩

/-! ### Whole and mixed values -/

/-- Each high word, with the low word that the register holds when it comes. -/
def mixedFrom (lo : Nat) : List ParamWord → List (Nat × Nat)
  | [] => []
  | .high h :: words => (h, lo) :: mixedFrom lo words
  | .low l :: words => mixedFrom l words

/-- The words of whole requests make values of requests exactly when each high word and the
low word before it are a pair of some request. -/
theorem forall_valuesFrom_iff {pairs rest : List (Nat × Nat)}
    (hbound : ∀ p ∈ pairs, p.1 < 2 ^ 16 ∧ p.2 < 2 ^ 16) (hrest : ∀ p ∈ rest, p ∈ pairs)
    {words : List ParamWord} (hwords : words <+: rest.flatMap wordsOf) {r : ParamRegs}
    (hlo : r.lo < 2 ^ 16) :
    (∀ v ∈ valuesFrom r words, ∃ p ∈ pairs, v = combine p.1 p.2) ↔
      ∀ m ∈ mixedFrom r.lo words, m ∈ pairs := by
  induction rest generalizing words r with
  | nil =>
    rw [List.prefix_nil.mp hwords]
    exact ⟨(fun _ m hm => nomatch hm), (fun _ v hv => nomatch hv)⟩
  | cons p rest ih =>
    have hp := hrest p List.mem_cons_self
    have hmixed : (∃ q ∈ pairs, combine p.1 r.lo = combine q.1 q.2) ↔ (p.1, r.lo) ∈ pairs := by
      constructor
      · rintro ⟨q, hq, heq⟩
        obtain ⟨h1, h2⟩ := combine_inj (hbound p hp).1 hlo (hbound q hq).1 (hbound q hq).2 heq
        rw [h1, h2]
        exact hq
      · intro hmem
        exact ⟨_, hmem, rfl⟩
    change words <+: .high p.1 :: .low p.2 :: rest.flatMap wordsOf at hwords
    match words, hwords with
    | [], _ => exact ⟨(fun _ m hm => nomatch hm), (fun _ v hv => nomatch hv)⟩
    | [word], hwords =>
      obtain ⟨rfl, -⟩ := List.cons_prefix_cons.mp hwords
      simp only [valuesFrom, mixedFrom, List.mem_singleton, forall_eq]
      exact hmixed
    | word :: word' :: words, hwords =>
      obtain ⟨rfl, htail⟩ := List.cons_prefix_cons.mp hwords
      obtain ⟨rfl, hrestWords⟩ := List.cons_prefix_cons.mp htail
      have hnext := ih (fun q hq => hrest q (List.mem_cons_of_mem p hq)) hrestWords
        (r := ⟨p.1, p.2⟩) (hbound p hp).2
      simp only [valuesFrom, mixedFrom, List.forall_mem_cons]
      constructor
      · rintro ⟨hfirst, -, hvals⟩
        exact ⟨hmixed.mp hfirst, hnext.mp hvals⟩
      · rintro ⟨hfirst, hm⟩
        exact ⟨hmixed.mpr hfirst, ⟨p, hp, rfl⟩, hnext.mpr hm⟩

section Requests

variable {sys : Option (List CanLinkCfg)} {map : Option HmiMapModel} {slaveId : Byte}
variable {base : Word} {path : String}

/-- What the requests of a run write to the parameter. -/
def requestPairs (sys : Option (List CanLinkCfg)) (map : Option HmiMapModel) (slaveId : Byte)
    (base : Word) (es : List PanelEvent) : List (Nat × Nat) :=
  (panelLoop sys map slaveId).trace (requestPair base) es

/-- Every request of the run that writes one register of the parameter writes both. -/
def AllWriteBoth (sys : Option (List CanLinkCfg)) (map : Option HmiMapModel) (slaveId : Byte)
    (base : Word) (es : List PanelEvent) : Prop :=
  ∀ pre r, pre ++ [.slave (.request r)] <+: es →
    WritesBoth base ((panelLoop sys map slaveId).run pre).slave r

theorem slave_onWrite_run (es : List PanelEvent) :
    ((panelLoop sys map slaveId).run es).slave.onWrite = true := by
  apply Machine.Invariant.run (I := fun s : PanelState => s.slave.onWrite = true)
  constructor
  · rfl
  · intro s e h
    cases e with
    | slave op => exact (HMIProto.step_onWrite s.slave op).trans h
    | post _ => exact h
    | report nowMs =>
      obtain ⟨slave, _ | ⟨ev, rest⟩, loop, logic⟩ := s
      · exact h
      · exact h
    | take =>
      show (panelStep s .take).1.slave.onWrite = true
      cases hpop : s.loop.popEvent with
      | none => rw [step_take_none hpop, h]
      | some r =>
        obtain ⟨x, loop⟩ := r
        rw [step_take_some hpop, h]

/-- The slave reports the words of its requests and nothing else. -/
theorem issued_eq (pre : List PanelEvent) (e : PanelEvent) :
    issued (reportWord base) ((panelLoop sys map slaveId).run pre) e =
      match e with
      | .slave (.request r) => requestWords base ((panelLoop sys map slaveId).run pre).slave r
      | _ => [] := by
  have hon : ((panelLoop sys map slaveId).run pre).slave.onWrite = true := slave_onWrite_run pre
  generalize (panelLoop sys map slaveId).run pre = s at hon ⊢
  cases e with
  | slave op =>
    cases op with
    | request r =>
      show ((s.slave.handleRequest r.bytes).events).filterMap (reportWord base) = _
      rw [(s.slave.handleRequest_writes r).2, HMIProto.reports, if_pos hon, List.filterMap_map]
      refine List.filterMap_congr fun w _ => ?_
      exact reportWord_event base _ w
    | _ => rfl
  | _ => rfl

theorem issued_run (hspace : base.toNat + 1 < 2 ^ 16) {es : List PanelEvent}
    (hboth : AllWriteBoth sys map slaveId base es) :
    (panelLoop sys map slaveId).trace (issued (reportWord base)) es =
      (requestPairs sys map slaveId base es).flatMap wordsOf := by
  induction es using List.reverseRecOn with
  | nil => rfl
  | append_singleton pre e ih =>
    have hbefore := ih fun pre' r hpre => hboth pre' r (hpre.trans (List.prefix_append pre [e]))
    rw [requestPairs, Machine.trace_snoc, Machine.trace_snoc, List.flatMap_append, hbefore,
      issued_eq]
    congr 1
    cases e with
    | slave op =>
      cases op with
      | request r => exact requestWords_eq hspace (hboth pre r (List.prefix_refl _))
      | _ => rfl
    | _ => rfl

theorem lt_of_mem_requestPairs {es : List PanelEvent} {p : Nat × Nat}
    (h : p ∈ requestPairs sys map slaveId base es) : p.1 < 2 ^ 16 ∧ p.2 < 2 ^ 16 := by
  induction es using List.reverseRecOn with
  | nil => cases h
  | append_singleton pre e ih =>
    rw [requestPairs, Machine.trace_snoc] at h
    obtain h | h := List.mem_append.mp h
    · exact ih h
    · cases e with
      | slave op =>
        cases op with
        | request r => exact lt_of_mem_pairOf h
        | _ => cases h
      | _ => cases h

/-- In every run whose requests write both registers or none, the values kept under the
path are all written by requests exactly when each high word that the control thread takes
and the low word it took before are together what some request writes. -/
theorem param_whole_iff (hp : TwoWordParam map base path) (es : List PanelEvent)
    (hboth : AllWriteBoth sys map slaveId base es) :
    (∀ pre, pre <+: es → ∀ v,
        ((panelLoop sys map slaveId).run pre).logic.ctx.hmi.hmiParamValues.get path = some v →
        ∃ p ∈ requestPairs sys map slaveId base es, v = combine p.1 p.2) ↔
      ∀ m ∈ mixedFrom 0 (handledWords sys map slaveId base es),
        m ∈ requestPairs sys map slaveId base es := by
  have hflow := (handled_append_queued sys map slaveId (readsReports base) es).2
  rw [issued_run hp.inSpace hboth, List.append_assoc] at hflow
  have hwords : handledWords sys map slaveId base es <+:
      (requestPairs sys map slaveId base es).flatMap wordsOf := ⟨_, hflow⟩
  rw [← forall_valuesFrom_iff (r := {}) (fun p hp => lt_of_mem_requestPairs hp)
    (fun p hp => hp) hwords (by decide), ← (param_run hp es).2.2, ← Machine.forall_latest_iff]
  constructor
  · intro h pre hpre v hv
    rw [← (param_run hp pre).2.1] at hv
    exact h pre hpre v hv
  · intro h pre hpre v hv
    rw [(param_run hp pre).2.1] at hv
    exact h pre hpre v hv

end Requests

/-! ### The shipped parameters -/

def appendItemToModel (m : HmiMapModel) (it : HmiMapItem) : HmiMapModel where
  items := m.items ++ [it]
  rwItems :=
    if it.type = .boolRw ∨ it.type = .intRw then m.rwItems ++ [m.items.length] else m.rwItems
  byAddr :=
    if it.hasAddr then m.byAddr.insert it.addr ((m.byAddr.get it.addr).getD [] ++ [m.items.length])
    else m.byAddr

/-- The register block of the shipped map. -/
def intRwItems : List HmiMapItem :=
  [⟨.intRw, true, 0x2000, 2, "hmi.param.maintain_password", "维护密码", "DINT"⟩,
    ⟨.intRw, true, 0x2002, 1, "hmi.param.box_num", "设置箱号", "UINT"⟩,
    ⟨.intRw, true, 0x2003, 1, "hmi.param.ups_shutdown_time", "UPS关机时间", "UINT"⟩,
    ⟨.intRw, true, 0x2004, 1, "hmi.param.aircon_set_temp", "设置空调温度", "INT"⟩,
    ⟨.intRw, true, 0x2005, 1, "hmi.param.aircon_set_humidity", "设置空调湿度", "UINT"⟩,
    ⟨.intRw, true, 0x2006, 2, "hmi.param.password_old", "输入原密码", "UDINT"⟩,
    ⟨.intRw, true, 0x2008, 2, "hmi.param.password_new_1", "设置密码1", "UDINT"⟩,
    ⟨.intRw, true, 0x200A, 2, "hmi.param.password_new_2", "设置密码2", "UDINT"⟩] ++
    (List.range 19).map fun i => ⟨.intRw, true, 0x200C + i, 1, "", "预留", ""⟩

def registerMap : HmiMapModel := intRwItems.foldl appendItemToModel {}

/-- A found item is one of the map that covers the address. -/
theorem exists_of_findHmiWriteItemByAddress {m : HmiMapModel} {addr : Nat}
    {kind : HmiWriteLookupKind} {item : HmiMappedWriteItem}
    (h : findHmiWriteItemByAddress (some m) addr kind = some item) :
    ∃ it ∈ m.items, it.path = item.path ∧ it.addr ≤ addr ∧
      addr < it.addr + (if it.words = 0 then 1 else it.words) := by
  have hfill : ∀ it, fillMappedWriteItem it addr kind = some item → it.path = item.path ∧
      it.addr ≤ addr ∧ addr < it.addr + (if it.words = 0 then 1 else it.words) := by
    intro it hit
    rw [fillMappedWriteItem] at hit
    split at hit
    · cases hit
    split at hit
    · cases hit
    split at hit
    · cases hit
    dsimp only at hit
    generalize (if it.words = 0 then 1 else it.words) = words at hit ⊢
    split at hit
    · cases hit
    · next hrange =>
      obtain ⟨hle, hlt⟩ := not_or.mp hrange
      obtain rfl := Option.some_inj.mp hit
      exact ⟨rfl, by omega, by omega⟩
  have hpick : ∀ idxs : List Nat, idxs.findSome? (fun idx => (m.itemAt idx).bind fun it =>
      fillMappedWriteItem it addr kind) = some item → ∃ it ∈ m.items, it.path = item.path ∧
      it.addr ≤ addr ∧ addr < it.addr + (if it.words = 0 then 1 else it.words) := by
    intro idxs hsome
    obtain ⟨idx, -, hidx⟩ := List.exists_of_findSome?_eq_some hsome
    obtain ⟨it, hit, hitem⟩ := Option.bind_eq_some_iff.mp hidx
    exact ⟨it, List.mem_of_getElem? hit, hfill it hitem⟩
  rw [findHmiWriteItemByAddress, Option.bind_some, Option.or_eq_some_iff] at h
  obtain h | ⟨-, h⟩ := h
  · exact hpick _ h
  · exact hpick _ h

/-- What the rows of the shipped block say about a parameter of two words. -/
theorem intRwItems_rows : ∀ it ∈ intRwItems, it.words = 2 →
    (BitVec.ofNat 16 it.addr).toNat = it.addr ∧ it.addr + 1 < 2 ^ 16 ∧
      it.path.startsWith "hmi.param." = true ∧
      (∀ addr ∈ [it.addr, it.addr + 1],
        (findHmiWriteItemByAddress (some registerMap) addr .intRw).any (fun item =>
          item.path = it.path ∧ item.words = 2 ∧ item.baseAddr = it.addr) = true) ∧
      ∀ it' ∈ intRwItems, it'.path = it.path → it'.addr = it.addr ∧ it'.words = 2 := by
  decide +kernel

theorem twoWordParam_registerMap {it : HmiMapItem} (hit : it ∈ intRwItems) (hwords : it.words = 2) :
    TwoWordParam (some registerMap) (BitVec.ofNat 16 it.addr) it.path := by
  obtain ⟨hbase, hspace, hparam, hcovers, hunique⟩ := intRwItems_rows it hit hwords
  refine ⟨by rw [hbase]; exact hspace, hparam, ?_, ?_⟩
  · intro addr haddr
    rw [hbase] at haddr ⊢
    have hmem : addr ∈ [it.addr, it.addr + 1] := by
      rw [List.mem_cons, List.mem_singleton]
      exact haddr
    obtain ⟨item, hfind, hitem⟩ := (Option.any_eq_true _ _).mp (hcovers addr hmem)
    obtain ⟨hpath, hwords, hbaseAddr⟩ := of_decide_eq_true hitem
    exact ⟨item, hfind, hpath, hwords, hbaseAddr⟩
  · intro addr item hfind hpath
    obtain ⟨it', hit', hpath', hle, hlt⟩ := exists_of_findHmiWriteItemByAddress hfind
    obtain ⟨haddr, htwo⟩ := hunique it' hit' (hpath'.trans hpath)
    rw [hbase]
    rw [haddr] at hle hlt
    rw [htwo, if_neg (by decide)] at hlt
    omega

/-- A run that goes on with a request for both registers. -/
theorem AllWriteBoth.snoc_request {sys : Option (List CanLinkCfg)} {map : Option HmiMapModel}
    {slaveId : Byte} {base : Word} {es : List PanelEvent}
    (h : AllWriteBoth sys map slaveId base es) {r : HmiRequest} {hi lo : Word}
    (hr : ((panelLoop sys map slaveId).run es).slave.writes (.request r) =
      [.holding base hi, .holding (base + 1) lo]) :
    AllWriteBoth sys map slaveId base (es ++ [.slave (.request r)]) := by
  intro pre r' hpre
  obtain heq | hpre := List.prefix_concat_iff.mp hpre
  · obtain ⟨rfl, hlast⟩ := List.append_inj' heq rfl
    cases hlast
    rw [WritesBoth, hr]
    exact ⟨fun _ => ⟨lo, List.mem_cons_of_mem _ List.mem_cons_self⟩,
      fun _ => ⟨hi, List.mem_cons_self⟩⟩
  · exact h pre r' hpre

/-- A run that goes on with something else. -/
theorem AllWriteBoth.snoc_other {sys : Option (List CanLinkCfg)} {map : Option HmiMapModel}
    {slaveId : Byte} {base : Word} {es : List PanelEvent}
    (h : AllWriteBoth sys map slaveId base es) {e : PanelEvent}
    (he : ∀ r, e ≠ .slave (.request r)) : AllWriteBoth sys map slaveId base (es ++ [e]) := by
  intro pre r hpre
  obtain heq | hpre := List.prefix_concat_iff.mp hpre
  · obtain ⟨rfl, hlast⟩ := List.append_inj' heq rfl
    exact absurd (List.singleton_inj.mp hlast).symm (he r)
  · exact h pre r hpre

theorem twoWordParam_maintainPassword :
    TwoWordParam (some registerMap) 0x2000 "hmi.param.maintain_password" := by
  have hmem : ⟨.intRw, true, 0x2000, 2, "hmi.param.maintain_password", "维护密码", "DINT"⟩ ∈
      intRwItems := List.mem_of_getElem? (i := 0) rfl
  exact twoWordParam_registerMap hmem rfl

theorem AllWriteBoth.nil {sys : Option (List CanLinkCfg)} {map : Option HmiMapModel}
    {slaveId : Byte} {base : Word} : AllWriteBoth sys map slaveId base [] := by
  intro pre r hpre
  have hlen := congrArg List.length (List.prefix_nil.mp hpre)
  simp at hlen

/-- The password is written as 1, 2. -/
def password12 : HmiRequest :=
  ⟨[0x03, 0x10, 0x20, 0x00, 0x00, 0x02, 0x04, 0x00, 0x01, 0x00, 0x02, 0xB1, 0xD7], by decide⟩

/-- The password is written as 3, 4. -/
def password34 : HmiRequest :=
  ⟨[0x03, 0x10, 0x20, 0x00, 0x00, 0x02, 0x04, 0x00, 0x03, 0x00, 0x04, 0x90, 0x15], by decide⟩

/-- The password is written as 3, 0. -/
def password30 : HmiRequest :=
  ⟨[0x03, 0x10, 0x20, 0x00, 0x00, 0x02, 0x04, 0x00, 0x03, 0x00, 0x00, 0x91, 0xD6], by decide⟩

/-- Two requests; of the second one the control thread has taken the high word only. -/
def requestRun (r r' : HmiRequest) : List PanelEvent :=
  [.slave (.request r), .report 10, .report 10, .take, .take,
    .slave (.request r'), .report 20, .report 20, .take]

/-- The run whose first request has been handled. -/
def requestRunStart (r : HmiRequest) : List PanelEvent :=
  [.slave (.request r), .report 10, .report 10, .take, .take]

theorem requestRun_writesBoth {r r' : HmiRequest} (hi lo hi' lo' : Word)
    (h : ((panelLoop none (some registerMap) 0x03).run []).slave.writes (.request r) =
      [.holding 0x2000 hi, .holding (0x2000 + 1) lo])
    (h' : ((panelLoop none (some registerMap) 0x03).run (requestRunStart r)).slave.writes
      (.request r') = [.holding 0x2000 hi', .holding (0x2000 + 1) lo']) :
    AllWriteBoth none (some registerMap) 0x03 0x2000 (requestRun r r') := by
  have hfirst := AllWriteBoth.nil.snoc_request h
  have hstart : AllWriteBoth none (some registerMap) 0x03 0x2000 (requestRunStart r) :=
    (((hfirst.snoc_other (e := .report 10) nofun).snoc_other (e := .report 10)
      nofun).snoc_other (e := .take) nofun).snoc_other (e := .take) nofun
  have hsecond := hstart.snoc_request h'
  exact ((hsecond.snoc_other (e := .report 20) nofun).snoc_other (e := .report 20)
    nofun).snoc_other (e := .take) nofun

/-- The second request changes only the low word; after its high word the parameter still holds
what the first one wrote. -/
theorem param_whole_password30 :
    ∃ p ∈ requestPairs none (some registerMap) 0x03 0x2000 (requestRun password30 password34),
      ((panelLoop none (some registerMap) 0x03).run
        (requestRun password30 password34)).logic.ctx.hmi.hmiParamValues.get
          "hmi.param.maintain_password" = some (combine p.1 p.2) := by
  have hboth : AllWriteBoth none (some registerMap) 0x03 0x2000
      (requestRun password30 password34) :=
    requestRun_writesBoth 3 0 3 4 (by decide +kernel) (by decide +kernel)
  have hpairs : requestPairs none (some registerMap) 0x03 0x2000
      (requestRun password30 password34) = [(3, 0), (3, 4)] := by decide +kernel
  have hmixed : ∀ m ∈ mixedFrom 0 (handledWords none (some registerMap) 0x03 0x2000
      (requestRun password30 password34)), m ∈ [(3, 0), (3, 4)] := by decide +kernel
  have hget : ((panelLoop none (some registerMap) 0x03).run
      (requestRun password30 password34)).logic.ctx.hmi.hmiParamValues.get
        "hmi.param.maintain_password" = some (combine 3 0) := by decide +kernel
  rw [← hpairs] at hmixed
  obtain ⟨p, hp, hvalue⟩ := (param_whole_iff twoWordParam_maintainPassword _ hboth).mpr hmixed _
    (List.prefix_refl _) _ hget
  exact ⟨p, hp, hget.trans (congrArg some hvalue)⟩

/-- The password was written as 1, 2 and as 3, 4; between the words of the second request
it is 3, 2. -/
theorem torn_password :
    TwoWordParam (some registerMap) 0x2000 "hmi.param.maintain_password" ∧
      AllWriteBoth none (some registerMap) 0x03 0x2000 (requestRun password12 password34) ∧
      requestPairs none (some registerMap) 0x03 0x2000 (requestRun password12 password34) =
        [(1, 2), (3, 4)] ∧
      ((panelLoop none (some registerMap) 0x03).run
        (requestRun password12 password34)).logic.ctx.hmi.hmiParamValues.get
          "hmi.param.maintain_password" = some (combine 3 2) ∧
      combine 3 2 ≠ combine 1 2 ∧ combine 3 2 ≠ combine 3 4 :=
  ⟨twoWordParam_maintainPassword,
    requestRun_writesBoth 1 2 3 4 (by decide +kernel) (by decide +kernel),
    by decide +kernel, by decide +kernel, by decide, by decide⟩

end Logic
end EnergyStorage

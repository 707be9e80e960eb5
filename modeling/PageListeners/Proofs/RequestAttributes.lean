import Mathlib.Data.List.Nodup
import PageListeners.Proofs.Json.RoundTrip
import PageListeners.RequestAttributes

/-!
# What a payload tells

A payload leaves out what equals its default. The members stand in a fixed order under distinct
names, so the ones that are there tell which are left out, and nothing but the places where one
event name ends and the next begins is lost.
-/

namespace PageListeners

namespace Json

variable {fs gs : List (String × Option Value)}

namespace Value

@[simp] theorem text_inj {s t : String} : text s = text t ↔ s = t := by
  simp [text]

@[simp] theorem nat_inj {m n : Nat} : nat m = nat n ↔ m = n := by
  rw [nat, nat, number.injEq]
  exact Nat.repr_inj

@[simp] theorem record_inj {ms ns : List (String × Value)} : record ms = record ns ↔ ms = ns := by
  rw [record, record, object.injEq, List.map_inj_right]
  rintro ⟨m, v⟩ ⟨n, w⟩ he
  cases he
  rfl

end Value

def flagValue? (default value : Bool) : Option Value :=
  if value = default then none else some (.bool value)

@[simp] theorem flagValue?_inj {default b c : Bool} :
    flagValue? default b = flagValue? default c ↔ b = c := by
  cases default <;> cases b <;> cases c <;> simp [flagValue?]

def present (fs : List (String × Option Value)) : List (String × Value) :=
  fs.flatMap fun f => member? f.1 f.2

theorem present_cons_none (name : String) (fs : List (String × Option Value)) :
    present ((name, none) :: fs) = present fs := rfl

theorem present_cons_some (name : String) (v : Value) (fs : List (String × Option Value)) :
    present ((name, some v) :: fs) = (name, v) :: present fs := rfl

theorem mem_present {m : String × Value} : m ∈ present fs ↔ (m.1, some m.2) ∈ fs := by
  simp only [present, member?, List.mem_flatMap, Option.mem_toList, Option.map_eq_some_iff]
  constructor
  · rintro ⟨⟨name, _⟩, hf, v, rfl, rfl⟩
    exact hf
  · intro hm
    exact ⟨_, hm, m.2, rfl, rfl⟩

theorem present_ne_cons {name : String} (hname : name ∉ fs.map (·.1)) (v : Value)
    (ms : List (String × Value)) : present fs ≠ (name, v) :: ms := by
  intro he
  have hm : (name, v) ∈ present fs := he ▸ List.mem_cons_self
  exact hname (List.mem_map_of_mem (f := (·.1)) (mem_present.1 hm))

/-- Under distinct names the members that are there tell which are not. -/
theorem eq_of_present_eq (hnames : fs.map (·.1) = gs.map (·.1)) (hdistinct : (fs.map (·.1)).Nodup)
    (he : present fs = present gs) : fs = gs := by
  induction fs generalizing gs with
  | nil => exact (List.map_eq_nil_iff.1 hnames.symm).symm
  | cons f fs ih =>
      cases gs with
      | nil => cases hnames
      | cons g gs =>
          obtain ⟨name, x⟩ := f
          obtain ⟨name', y⟩ := g
          simp only [List.map_cons, List.cons.injEq] at hnames hdistinct
          obtain ⟨rfl, hnames⟩ := hnames
          obtain ⟨hnew, hdistinct⟩ := List.nodup_cons.1 hdistinct
          have hnew' : name ∉ gs.map (·.1) := hnames ▸ hnew
          cases x with
          | none =>
              cases y with
              | none =>
                  rw [present_cons_none, present_cons_none] at he
                  rw [ih hnames hdistinct he]
              | some w => exact absurd he (present_ne_cons hnew w _)
          | some v =>
              cases y with
              | none => exact absurd he.symm (present_ne_cons hnew' v _)
              | some w =>
                  rw [present_cons_some, present_cons_some] at he
                  obtain ⟨hhead, htail⟩ := List.cons.inj he
                  cases hhead
                  rw [ih hnames hdistinct htail]

def IsRegularIfAny (value? : Option Value) : Prop :=
  ∀ v ∈ value?, v.IsRegular

theorem isRegularIfAny_none : IsRegularIfAny none := by
  rintro v ⟨⟩

theorem isRegularIfAny_some {v : Value} (hv : v.IsRegular) : IsRegularIfAny (some v) := by
  rintro _ ⟨⟩
  exact hv

theorem isRegularIfAny_map {α : Type} {f : α → Value} (hf : ∀ x, (f x).IsRegular) (o : Option α) :
    IsRegularIfAny (o.map f) := by
  cases o with
  | none => exact isRegularIfAny_none
  | some x => exact isRegularIfAny_some (hf x)

theorem isRegularIfAny_flagValue? (default b : Bool) : IsRegularIfAny (flagValue? default b) := by
  unfold flagValue?
  split
  · exact isRegularIfAny_none
  · exact isRegularIfAny_some (.bool b)

theorem isRegular_record_present (hfs : ∀ f ∈ fs, IsRegularIfAny f.2) :
    (Value.record (present fs)).IsRegular :=
  .record fun m hm => hfs _ (mem_present.1 hm) m.2 rfl

end Json

open Json

theorem Method.isRegularIfAny_payload? (m : Method) : IsRegularIfAny m.payload? := by
  cases m with
  | get => exact isRegularIfAny_none
  | post => exact isRegularIfAny_some (.text "POST")

theorem Propagation.isRegularIfAny_payload? (m : Propagation) : IsRegularIfAny m.payload? := by
  cases m with
  | bubble => exact isRegularIfAny_none
  | stop => exact isRegularIfAny_some (.text "stop")
  | stopImmediate => exact isRegularIfAny_some (.text "stopImmediate")

theorem Method.payload?_inj {m n : Method} : m.payload? = n.payload? ↔ m = n := by
  cases m <;> cases n <;> simp [payload?]

theorem Propagation.payload?_inj {m n : Propagation} : m.payload? = n.payload? ↔ m = n := by
  cases m <;> cases n <;> simp [payload?]

namespace Throttle

variable {t u : Throttle}

def fields (t : Throttle) : List (String × Option Value) :=
  [("id", some (.text t.id)), ("d", some (.nat t.delay)), ("p", flagValue? false t.postpone)]

theorem payload_eq (t : Throttle) : t.payload = .record (present t.fields) := by
  simp [payload, present, fields, member?, flag?, flagValue?]

theorem payload_inj : t.payload = u.payload ↔ t = u := by
  constructor
  · intro he
    rw [payload_eq, payload_eq, Value.record_inj] at he
    have hdistinct : ["id", "d", "p"].Nodup := by decide
    have hfields : t.fields = u.fields := eq_of_present_eq rfl hdistinct he
    cases t
    cases u
    simpa [fields] using hfields
  · rintro rfl
    rfl

theorem isRegular_payload (t : Throttle) : t.payload.IsRegular := by
  rw [payload_eq]
  apply isRegular_record_present
  simp only [fields, List.forall_mem_cons]
  exact ⟨isRegularIfAny_some (.text t.id), isRegularIfAny_some (.nat t.delay),
    isRegularIfAny_flagValue? false t.postpone, List.forall_mem_nil _⟩

end Throttle

namespace RequestAttributes

variable {a b : RequestAttributes}

theorem extraPayload?_inj {es fs : List (String × String)} :
    extraPayload? es = extraPayload? fs ↔ es = fs := by
  constructor
  · intro he
    unfold extraPayload? at he
    by_cases hes : es = [] <;> by_cases hfs : fs = []
    · rw [hes, hfs]
    · simp [hes, hfs] at he
    · simp [hes, hfs] at he
    · rw [if_neg hes, if_neg hfs, Option.some.injEq, Value.record_inj, List.map_inj_right] at he
      · exact he
      · rintro ⟨m, s⟩ ⟨n, t⟩ hsame
        simpa using hsame
  · rintro rfl
    rfl

def fields (a : RequestAttributes) : List (String × Option Value) :=
  [("u", some (.text a.url)), ("c", some (.text a.markupId)),
    ("e", some (.text (String.intercalate " " a.eventNames))), ("m", a.method.payload?),
    ("ch", a.channel.map .text), ("pd", flagValue? false a.preventDefault),
    ("sp", a.propagation.payload?), ("rt", a.timeout.map .nat),
    ("tr", a.throttle.map Throttle.payload), ("i", a.indicatorId.map .text),
    ("ad", flagValue? false a.allowDefault), ("ep", extraPayload? a.extraParameters),
    ("async", flagValue? true a.asynchronous), ("dt", a.dataType.map .text)]

theorem payload_eq (a : RequestAttributes) : a.payload = .record (present a.fields) := by
  simp [payload, present, fields, member?, flag?, flagValue?]

theorem payload_eq_payload_iff : a.payload = b.payload ↔ a.fields = b.fields := by
  have hdistinct : ["u", "c", "e", "m", "ch", "pd", "sp", "rt", "tr", "i", "ad", "ep", "async",
      "dt"].Nodup := by decide
  rw [payload_eq, payload_eq, Value.record_inj]
  exact ⟨eq_of_present_eq rfl hdistinct, congrArg present⟩

theorem fields_eq_fields_iff :
    a.fields = b.fields ↔ { a with eventNames := b.eventNames } = b ∧
      String.intercalate " " a.eventNames = String.intercalate " " b.eventNames := by
  have htext : Function.Injective Value.text := fun _ _ => Value.text_inj.1
  have hnat : Function.Injective Value.nat := fun _ _ => Value.nat_inj.1
  have hthrottle : Function.Injective Throttle.payload := fun _ _ => Throttle.payload_inj.1
  cases a
  cases b
  simp only [fields, List.cons.injEq, Prod.mk.injEq, Option.some.injEq, Value.text_inj, true_and,
    Method.payload?_inj, flagValue?_inj, Propagation.payload?_inj, extraPayload?_inj,
    (Option.map_injective htext).eq_iff, (Option.map_injective hnat).eq_iff,
    (Option.map_injective hthrottle).eq_iff, and_true, mk.injEq]
  constructor
  · rintro ⟨hurl, hmarkupId, hevents, hrest⟩
    exact ⟨⟨hurl, hmarkupId, hrest⟩, hevents⟩
  · rintro ⟨⟨hurl, hmarkupId, hrest⟩, hevents⟩
    exact ⟨hurl, hmarkupId, hevents, hrest⟩

theorem isRegularIfAny_extraPayload? (es : List (String × String)) :
    IsRegularIfAny (extraPayload? es) := by
  unfold extraPayload?
  split
  · exact isRegularIfAny_none
  · apply isRegularIfAny_some
    apply Value.IsRegular.record
    simp only [List.mem_map]
    rintro _ ⟨e, -, rfl⟩
    exact .text e.2

theorem isRegular_payload (a : RequestAttributes) : a.payload.IsRegular := by
  rw [payload_eq]
  apply isRegular_record_present
  simp only [fields, List.forall_mem_cons]
  exact ⟨isRegularIfAny_some (.text a.url), isRegularIfAny_some (.text a.markupId),
    isRegularIfAny_some (.text _), a.method.isRegularIfAny_payload?,
    isRegularIfAny_map .text a.channel, isRegularIfAny_flagValue? false a.preventDefault,
    a.propagation.isRegularIfAny_payload?, isRegularIfAny_map .nat a.timeout,
    isRegularIfAny_map Throttle.isRegular_payload a.throttle, isRegularIfAny_map .text a.indicatorId,
    isRegularIfAny_flagValue? false a.allowDefault, isRegularIfAny_extraPayload? a.extraParameters,
    isRegularIfAny_flagValue? true a.asynchronous, isRegularIfAny_map .text a.dataType,
    List.forall_mem_nil _⟩

theorem read?_json (a : RequestAttributes) : read? a.json = some a.payload :=
  a.isRegular_payload.read?_compact

theorem json_eq_json_iff_payload : a.json = b.json ↔ a.payload = b.payload :=
  ⟨a.isRegular_payload.eq_of_compact_eq b.isRegular_payload, congrArg Value.compact⟩

/-- The payload of a listener tells its URL. -/
theorem url_eq_of_json_eq (he : a.json = b.json) : a.url = b.url := by
  have hfields := payload_eq_payload_iff.1 (json_eq_json_iff_payload.1 he)
  obtain ⟨hsame, -⟩ := fields_eq_fields_iff.1 hfields
  rw [← hsame]

/-- Two payloads read the same exactly if the attributes agree in everything but how the event names
are split up. -/
theorem json_eq_json_iff (a b : RequestAttributes) :
    a.json = b.json ↔ { a with eventNames := b.eventNames } = b ∧
      String.intercalate " " a.eventNames = String.intercalate " " b.eventNames := by
  rw [json_eq_json_iff_payload, payload_eq_payload_iff, fields_eq_fields_iff]

example : RequestAttributes.json { eventNames := ["keyup", "change"] } =
    RequestAttributes.json { eventNames := ["keyup change"] } := by
  decide +kernel

end RequestAttributes

end PageListeners

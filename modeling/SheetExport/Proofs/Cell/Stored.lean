import SheetExport.Cell.Stored
import SheetExport.Proofs.Json.Decode

/-!
# Two ways to read a cell

Values from the sheets service and stored values are read in different ways, one
by what a value is and one by trying the kinds of cells. They agree on every value
but arrays and objects, and both read back what a cell is written as. So a text of
a row stores what the elements of a parsed array are as cells: `parseRow_eq_ok`.
-/

namespace SheetExport.Cell

open Json

variable {v : Json} {c : Cell} {x : Float} {d : Nat} {s : String} {cells : List Cell}

/-! ## Values -/

/-- An integer of 64 bits is held as an integer before a double is tried. -/
theorem ofStored?_int (i : Int) : ofStored? (.number (.int i)) = some (ofInt i) := by
  unfold ofInt
  by_cases h : Int64.minValue.toInt ≤ i ∧ i ≤ Int64.maxValue.toInt
  · simp only [ofStored?, kinds, List.findSome?_cons, Kind.hold?, if_pos h]
  · simp only [ofStored?, kinds, List.findSome?_cons, Kind.hold?, if_neg h]

theorem ofStored?_scalar (h : IsScalar v) : ofStored? v = some (ofJson v) := by
  cases v with
  | null => rfl
  | bool b => rfl
  | number n =>
    cases n with
    | int i => exact ofStored?_int i
    | float x => rfl
  | string s => rfl
  | array vs => exact h.elim
  | object ms => exact h.elim

theorem ofStored?_of_not_scalar (h : ¬IsScalar v) : ofStored? v = none := by
  cases v with
  | array vs => rfl
  | object ms => rfl
  | _ => exact absurd trivial h

theorem ofJson_of_not_scalar (h : ¬IsScalar v) : ofJson v = .text v.canonical.text := by
  cases v with
  | array vs => rfl
  | object ms => rfl
  | _ => exact absurd trivial h

theorem ofStored?_eq_some : ofStored? v = some c ↔ IsScalar v ∧ ofJson v = c := by
  by_cases h : IsScalar v
  · rw [ofStored?_scalar h, Option.some_inj, and_iff_right h]
  · simp [ofStored?_of_not_scalar h, h]

/-! ## Cells that are written -/

theorem isFinite_iff : x.isFinite = true ↔ x.isNaN = false ∧ x.isInf = false := by
  have h (y : Float.Model.UnpackedFloat) :
      y.isFinite = true ↔ y.isNaN = false ∧ y.isInf = false := by
    cases y with
    | notANumber => exact ⟨nofun, fun h => nomatch h.1⟩
    | infinity s => exact ⟨nofun, fun h => nomatch h.2⟩
    | _ => exact ⟨fun _ => ⟨rfl, rfl⟩, fun _ => rfl⟩
  exact h x.toModel.unpack

/-- No double, or one that is a number and finite. -/
def IsProper (c : Cell) : Prop := ∀ x, c = .float x → x.isNaN = false ∧ x.isInf = false

theorem isScalar_toJson (c : Cell) : IsScalar c.toJson := by
  cases c with
  | float x =>
    rw [toJson]
    split <;> exact trivial
  | _ => exact trivial

theorem ofInt_toInt (i : Int64) : ofInt i.toInt = .int i := by
  rw [ofInt, if_pos ⟨i.minValue_le_toInt, i.toInt_le⟩, Int64.ofInt_toInt]

theorem ofJson_toJson (h : IsProper c) : ofJson c.toJson = c := by
  cases c with
  | int i => exact ofInt_toInt i
  | float x =>
    rw [toJson, if_pos (isFinite_iff.2 (h x rfl))]
    rfl
  | _ => rfl

theorem toJson_improper (h : x.isNaN = true ∨ x.isInf = true) : (Cell.float x).toJson = .null := by
  rw [toJson, if_neg]
  intro hx
  obtain ⟨hnan, hinf⟩ := isFinite_iff.1 hx
  rcases h with h | h
  · rw [hnan] at h
    cases h
  · rw [hinf] at h
    cases h

/-! ## Rows -/

theorem narrows_readStored (d : Nat) :
    Narrows (readStored d) (value d) fun v c => ofStored? v = some c := by
  intro cs c rest
  rw [readStored, Except.bind_eq_ok]
  constructor
  · rintro ⟨⟨v, rest'⟩, hv, h⟩
    dsimp only at h
    split at h
    · next c' hc =>
      cases h
      exact ⟨v, hv, hc⟩
    · cases h
  · rintro ⟨v, hv, hc⟩
    refine ⟨(v, rest), hv, ?_⟩
    dsimp only
    rw [hc]
    rfl

theorem narrows_readRow (d : Nat) : Narrows (readRow d) (value d) fun v cells =>
    ∃ vs, v = .array vs ∧ List.Forall₂ (fun v c => ofStored? v = some c) vs cells := by
  intro cs cells rest
  constructor
  · intro h
    unfold readRow at h
    split at h
    · cases h
    · next cs' d hcs =>
      obtain ⟨vs, hvs, hcells⟩ := ((narrows_readStored d).elements _ _ _).closing.1 h
      exact ⟨.array vs, value_eq_array.2 ⟨cs', d, hcs, rfl, hvs⟩, vs, rfl, hcells⟩
    · exact (unlike_ne_ok h).elim
  · rintro ⟨_, hv, vs, rfl, hcells⟩
    obtain ⟨cs', d, hcs, rfl, hvs⟩ := value_eq_array.1 hv
    have hread := ((narrows_readStored d).elements _ _ _).closing.2 ⟨vs, hvs, hcells⟩
    simpa only [readRow, hcs] using hread

theorem forall₂_ofStored? {vs : List Json} :
    List.Forall₂ (fun v c => ofStored? v = some c) vs cells ↔
      (∀ v ∈ vs, IsScalar v) ∧ cells = vs.map ofJson := by
  simp only [ofStored?_eq_some, List.forall₂_and_left]
  rw [← List.forall₂_map_left_iff (R := Eq), List.forall₂_eq_eq_eq, eq_comm]

theorem parseRow_eq_ok : parseRow s = .ok cells ↔
    ∃ vs, Json.parse s = .ok (.array vs) ∧ (∀ v ∈ vs, IsScalar v) ∧ cells = vs.map ofJson := by
  rw [parseRow, (narrows_readRow _).document]
  simp only [Json.parse, forall₂_ofStored?]
  constructor
  · rintro ⟨_, hv, vs, rfl, h⟩
    exact ⟨vs, hv, h⟩
  · rintro ⟨vs, hv, h⟩
    exact ⟨_, hv, vs, rfl, h⟩

/-- Both ways take a value that is no array or object for the same cell. An array or
object is a text to one and nothing to the other. Both ways read a proper cell back
from what it is written as, and take a double that is not finite for an empty cell.
A text stores a row just if it writes an array that holds no others and no objects. -/
theorem decoders_agree :
    (∀ v, IsScalar v → ofStored? v = some (ofJson v)) ∧
    (∀ v, ¬IsScalar v → ofJson v = .text v.canonical.text ∧ ofStored? v = none) ∧
    (∀ c, IsProper c → ofJson c.toJson = c ∧ ofStored? c.toJson = some c) ∧
    (∀ x : Float, x.isNaN = true ∨ x.isInf = true →
      ofJson (Cell.float x).toJson = .null ∧ ofStored? (Cell.float x).toJson = some .null) ∧
    (∀ s cells, parseRow s = .ok cells ↔
      ∃ vs, Json.parse s = .ok (.array vs) ∧ (∀ v ∈ vs, IsScalar v) ∧ cells = vs.map ofJson) := by
  refine ⟨fun v h => ofStored?_scalar h,
    fun v h => ⟨ofJson_of_not_scalar h, ofStored?_of_not_scalar h⟩, fun c h => ?_, fun x h => ?_,
    fun s cells => parseRow_eq_ok⟩
  · have hc := ofJson_toJson h
    refine ⟨hc, ?_⟩
    rw [ofStored?_scalar (isScalar_toJson c), hc]
  · rw [toJson_improper h]
    exact ⟨rfl, rfl⟩

end SheetExport.Cell

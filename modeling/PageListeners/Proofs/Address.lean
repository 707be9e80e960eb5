import Mathlib
import PageListeners.Address
import PageListeners.Proofs.Text.Numeral

/-!
# Reading addresses

A text is an address if a numeral of 64 bits stands behind its last colon. The index of an address
has no colon in it, so the last colon of the address's own text is the one that ends the path,
whatever the path holds.
-/

namespace PageListeners

variable {sep : Char} {cs front back : List Char}

theorem splitLast?_eq_none_iff : splitLast? sep cs = none ↔ sep ∉ cs := by
  induction cs with
  | nil => simp [splitLast?]
  | cons c cs ih =>
      rw [splitLast?, List.mem_cons, not_or, ← ih]
      cases splitLast? sep cs with
      | none => simp [eq_comm]
      | some parts => simp

theorem splitLast?_append (h : sep ∉ back) (front : List Char) :
    splitLast? sep (front ++ sep :: back) = some (front, back) := by
  induction front with
  | nil => simp [splitLast?, splitLast?_eq_none_iff.2 h]
  | cons c cs ih => simp [splitLast?, ih]

theorem splitLast?_eq_some_iff :
    splitLast? sep cs = some (front, back) ↔ cs = front ++ sep :: back ∧ sep ∉ back := by
  constructor
  · intro h
    induction cs generalizing front with
    | nil => cases h
    | cons c cs ih =>
        rw [splitLast?] at h
        cases hsplit : splitLast? sep cs with
        | some parts =>
            rw [hsplit] at h
            cases h
            obtain ⟨rfl, hback⟩ := ih hsplit
            exact ⟨rfl, hback⟩
        | none =>
            rw [hsplit] at h
            obtain ⟨rfl, hparts⟩ := Option.ite_none_right_eq_some.1 h
            cases hparts
            exact ⟨rfl, splitLast?_eq_none_iff.1 hsplit⟩
  · rintro ⟨rfl, hback⟩
    exact splitLast?_append hback front

namespace Address

open PageListeners.Text

theorem toList_toString (n : Nat) : (toString n).toList = Nat.toDigits 10 n := by
  simp

theorem isDigit_of_mem_toString {n : Nat} {c : Char} (h : c ∈ (toString n).toList) :
    c.isDigit = true := by
  rw [toList_toString] at h
  exact Nat.isDigit_of_mem_toDigits (by omega) (by omega) h

theorem isUnsigned_toString (n : Nat) : IsUnsigned (toString n).toList n :=
  ⟨Nat.toDigits 10 n, digits?_eq_some_iff.1 (digits?_toDigits n), Or.inl (toList_toString n)⟩

theorem splitLast?_toList {s path back : String} (hs : s = path ++ ":" ++ back)
    (hlast : ':' ∉ back.toList) : splitLast? ':' s.toList = some (path.toList, back.toList) := by
  rw [splitLast?_eq_some_iff, hs]
  exact ⟨by simp, hlast⟩

theorem colon_not_mem_toString (n : Nat) : ':' ∉ (toString n).toList := by
  intro hcolon
  cases isDigit_of_mem_toString hcolon

/-- The colon before the index is the last one, since no digit is a colon. -/
theorem splitLast?_text (a : Address) :
    splitLast? ':' a.text.toList = some (a.path.toList, (toString a.index).toList) :=
  splitLast?_toList rfl (colon_not_mem_toString a.index)

theorem eq_of_text_eq {a b : Address} (he : a.text = b.text) : a = b := by
  have hsplit := congrArg (fun s : String => splitLast? ':' s.toList) he
  simp only [splitLast?_text, Option.some.injEq, Prod.mk.injEq, String.toList_inj] at hsplit
  cases a
  cases b
  rw [mk.injEq]
  exact ⟨hsplit.1, Nat.repr_inj.1 hsplit.2⟩

inductive Says (s : String) : Except Error Address → Prop where
  | address {path back : String} {index : Nat} (hs : s = path ++ ":" ++ back)
      (hlast : ':' ∉ back.toList) (hindex : IsUnsigned back.toList index)
      (hfits : index < UInt64.size) : Says s (.ok ⟨path, index⟩)
  | noIndex (hcolon : ':' ∉ s.toList) : Says s (.error (.invalidListener (.noIndex s)))
  | badIndex {path back : String} (hs : s = path ++ ":" ++ back) (hlast : ':' ∉ back.toList)
      (hbad : ∀ index, IsUnsigned back.toList index → UInt64.size ≤ index) :
      Says s (.error (.invalidListener (.badIndex back)))

theorem parse_of_says {s : String} {r : Except Error Address} (h : Says s r) : parse s = r := by
  cases h with
  | @address path back index hs hlast hindex hfits =>
      have hread : unsigned? 64 back = some index := unsigned?_eq_some_iff.2 ⟨hindex, hfits⟩
      simp only [parse, splitLast?_toList hs hlast, String.ofList_toList, hread]
  | noIndex hcolon => simp only [parse, splitLast?_eq_none_iff.2 hcolon]
  | @badIndex path back hs hlast hbad =>
      have hread : unsigned? 64 back = none := by
        rw [Option.eq_none_iff_forall_ne_some]
        intro index hindex
        obtain ⟨hindex, hfits⟩ := unsigned?_eq_some_iff.1 hindex
        exact absurd hfits (Nat.not_lt.2 (hbad index hindex))
      simp only [parse, splitLast?_toList hs hlast, String.ofList_toList, hread]

theorem parse_text {a : Address} (h : a.index < 1 <<< 64) : parse a.text = .ok a :=
  parse_of_says (.address rfl (colon_not_mem_toString a.index) (isUnsigned_toString a.index) h)

theorem says_parse (s : String) : Says s (parse s) := by
  unfold parse
  split
  · next hsplit => exact .noIndex (splitLast?_eq_none_iff.1 hsplit)
  · next path back hsplit =>
    obtain ⟨hs, hlast⟩ := splitLast?_eq_some_iff.1 hsplit
    have htext : s = String.ofList path ++ ":" ++ String.ofList back := by
      rw [← String.toList_inj, hs]
      simp
    rw [← String.toList_ofList (l := back)] at hlast
    split
    · next index hread =>
      obtain ⟨hindex, hfits⟩ := unsigned?_eq_some_iff.1 hread
      exact .address htext hlast hindex hfits
    · next hread =>
      refine .badIndex htext hlast fun index hindex => Nat.not_lt.1 fun hfits => ?_
      rw [unsigned?_eq_some_iff.2 ⟨hindex, hfits⟩] at hread
      cases hread

/-- A text is read for what it says and for nothing else, and an address whose index is a word of
64 bits is read back from its text. -/
theorem parse_exact (s : String) :
    (∀ r, parse s = r ↔ Says s r) ∧
      ∀ (path : String) (index : UInt64),
        parse (text ⟨path, index.toNat⟩) = .ok ⟨path, index.toNat⟩ := by
  refine ⟨fun r => ⟨?_, parse_of_says⟩, fun path index => parse_text index.toNat_lt_size⟩
  rintro rfl
  exact says_parse s

/-- The path may look like an address, and the index may have a sign and leading zeros. -/
example : parse "form:1:+007" = .ok ⟨"form:1", 7⟩ := by
  rfl

end Address

end PageListeners

import PathKeeper.Proofs.Json.Spelling
import PathKeeper.Proofs.Text.Trim
import PathKeeper.Source.ChangeLine

/-!
# Lines with more in them

A line may hold more than its change. Members of other names are passed over, whatever their values
and wherever they stand, so lines may be extended without their readers.
-/

namespace PathKeeper.Source

set_option autoImplicit false

open Change (Draft)
open Json (IsBody IsDigits IsExponent IsLiteral IsNumber IsStringList IsValue Member Spaced
  SpellsChar Steps Takes isLiteral_quote objectText quote writeList)

/-! ## Members of a change -/

section Members

variable {change : Change} {members : List Member}

def IsIdentity (change : Change) (m : Member) : Prop :=
  IsLiteral m.key.text "network_identity" ∧ IsLiteral m.value.text change.identity.token

def IsResolvers (change : Change) (m : Member) : Prop :=
  IsLiteral m.key.text "dns_servers" ∧ IsStringList m.value.text change.resolvers

/-- A member of another name, whatever its value. -/
def IsOther (m : Member) : Prop :=
  (∃ key, IsLiteral m.key.text key ∧ key ≠ "network_identity" ∧ key ≠ "dns_servers") ∧
    IsValue m.value.text

/-- The members of an object, in any order, are those of a change and others. The resolvers may be
left out if there are none. -/
inductive Presents (change : Change) (members : List Member) : Prop where
  | whole {identity resolvers : Member} {others : List Member}
      (hidentity : IsIdentity change identity) (hresolvers : IsResolvers change resolvers)
      (hothers : ∀ m ∈ others, IsOther m)
      (hmembers : members.Perm (identity :: resolvers :: others))
  | withoutResolvers {identity : Member} {others : List Member}
      (hidentity : IsIdentity change identity) (hnone : change.resolvers = [])
      (hothers : ∀ m ∈ others, IsOther m) (hmembers : members.Perm (identity :: others))

/-- What a member does to what has been read of a change. -/
inductive Fills (change : Change) : Draft → Member → Draft → Prop where
  | identity {m : Member} {resolvers : Option (List String)} (h : IsIdentity change m) :
      Fills change ⟨none, resolvers⟩ m ⟨some change.identity, resolvers⟩
  | resolvers {m : Member} {identity : Option Identity} (h : IsResolvers change m) :
      Fills change ⟨identity, none⟩ m ⟨identity, some change.resolvers⟩
  | other {m : Member} {draft : Draft} (h : IsOther m) : Fills change draft m draft

theorem Fills.swap {a b c : Draft} {x y : Member} (hx : Fills change a x b)
    (hy : Fills change b y c) : ∃ d, Fills change a y d ∧ Fills change d x c := by
  cases hx with
  | other hx => exact ⟨c, hy, .other hx⟩
  | identity hx =>
    cases hy with
    | resolvers hy => exact ⟨_, .resolvers hy, .identity hx⟩
    | other hy => exact ⟨_, .other hy, .identity hx⟩
  | resolvers hx =>
    cases hy with
    | identity hy => exact ⟨_, .identity hy, .resolvers hx⟩
    | other hy => exact ⟨_, .other hy, .resolvers hx⟩

theorem Fills.takes {a b : Draft} {m : Member} (h : Fills change a m b) :
    Takes Change.fields a m b := by
  cases h with
  | identity h =>
    refine .stored h.1 rfl rfl fun rest => ?_
    simp only [Change.identityField, Identity.read, Json.readString_write h.2, bind, Except.bind]
  | resolvers h =>
    refine .stored h.1 rfl rfl fun rest => ?_
    simp only [Change.resolversField, Json.readList_write h.2, bind, Except.bind]
  | other h =>
    obtain ⟨⟨key, hkey, hidentity, hresolvers⟩, hvalue⟩ := h
    refine .skipped hkey ?_ hvalue
    simp [Change.fields, Change.identityField, Change.resolversField, Ne.symm hidentity,
      Ne.symm hresolvers]

theorem steps_others {others : List Member} (h : ∀ m ∈ others, IsOther m) (draft : Draft) :
    Steps (Fills change) draft others draft := by
  induction others with
  | nil => exact .nil
  | cons m others ih =>
    obtain ⟨hm, hothers⟩ := List.forall_mem_cons.mp h
    exact .cons (.other hm) (ih hothers)

/-- The members are read to the draft of the change. -/
theorem Presents.steps (h : Presents change members) :
    ∃ resolvers : Option (List String), resolvers.getD [] = change.resolvers ∧
      Steps (Takes Change.fields) ⟨none, none⟩ members ⟨some change.identity, resolvers⟩ := by
  cases h with
  | @whole identity resolvers others hidentity hresolvers hothers hmembers =>
    have hsteps : Steps (Fills change) ⟨none, none⟩ (identity :: resolvers :: others)
        ⟨some change.identity, some change.resolvers⟩ :=
      .cons (.identity hidentity) (.cons (.resolvers hresolvers) (steps_others hothers _))
    exact ⟨some change.resolvers, rfl,
      (hsteps.perm Fills.swap hmembers.symm).imp fun _ _ _ => Fills.takes⟩
  | @withoutResolvers identity others hidentity hnone hothers hmembers =>
    have hsteps : Steps (Fills change) ⟨none, none⟩ (identity :: others)
        ⟨some change.identity, none⟩ :=
      .cons (.identity hidentity) (steps_others hothers _)
    exact ⟨none, hnone.symm, (hsteps.perm Fills.swap hmembers.symm).imp fun _ _ _ => Fills.takes⟩

theorem Presents.ne_nil (h : Presents change members) : members ≠ [] := by
  rintro rfl
  cases h with
  | whole _ _ _ hmembers => exact absurd hmembers.length_eq (by simp)
  | withoutResolvers _ _ _ hmembers => exact absurd hmembers.length_eq (by simp)

theorem Presents.readsBack (h : Presents change members) :
    Json.ReadsBack Change.read (objectText members) change := by
  obtain ⟨resolvers, hresolvers, hsteps⟩ := h.steps
  intro rest
  have hrecord := Json.readRecord_objectText h.ne_nil hsteps rfl "NetworkChange" rest
  simp only [Change.read, hrecord, bind, Except.bind, hresolvers]

end Members

/-! ## Lines -/

theorem trim_objectText (members : List Member) :
    Text.trim (objectText members) = objectText members := by
  have hopen : Text.isBlank '\x7b' = false := by decide
  have hclose : Text.isBlank '\x7d' = false := by decide
  rw [objectText, Text.trim_cons hopen, Text.trimEnd_append_cons hclose, Text.trimEnd_nil]

/-- A line with blanks around an object is read for the change that members of the object present,
in any order and with any others among them. -/
theorem extended_lines_are_read {change : Change} {members : List Member}
    (h : Presents change members) {front back : List Char} (hfront : Text.AllBlank front)
    (hback : Text.AllBlank back) :
    decodeLine (String.ofList (front ++ objectText members ++ back)) = .ok (some change) := by
  have hread : Json.readWhole Change.read (objectText members) = .ok change :=
    h.readsBack.readWhole
  have hne : objectText members ≠ [] := List.cons_ne_nil _ _
  have htrim := (Text.trim_surrounded hfront hback (objectText members)).trans
    (trim_objectText members)
  simp only [decodeLine, decodeChars, String.toList_ofList, htrim, hne, hread, if_false]

/-- The identity is escaped, and stands behind a member that holds a list of an object and of a
surrogate without its other half. -/
theorem nested_member_is_passed_over :
    let number : Spaced := ⟨[' '], "-0.5e+1".toList, [], by decide, by decide⟩
    let inner : Member := ⟨⟨[], quote "", [' '], by decide, by decide⟩, number⟩
    let object : Spaced := ⟨[], objectText [inner], [], by decide, by decide⟩
    let lone : Spaced := ⟨['\t'], "\"\\ud800\"".toList, [], by decide, by decide⟩
    let other : Member := ⟨⟨[], "\"\\ud83d\\ude00\"".toList, [], by decide, by decide⟩,
      ⟨[], writeList [object.write, lone.write], ['\n'], by decide, by decide⟩⟩
    let identity : Member := ⟨⟨[' '], quote "network_identity", [], by decide, by decide⟩,
      ⟨[], "\"\\u00e9\"".toList, [], by decide, by decide⟩⟩
    let line := "\u3000\x7b\"\\ud83d\\ude00\":[\x7b\"\" : -0.5e+1\x7d,\t\"\\ud800\"]\n, " ++
      "\"network_identity\":\"\\u00e9\"\x7d\r"
    Presents ⟨⟨"\u00e9"⟩, []⟩ [other, identity] ∧
      line = String.ofList (['\u3000'] ++ objectText [other, identity] ++ ['\r']) ∧
      decodeLine line = .ok (some ⟨⟨"\u00e9"⟩, []⟩) := by
  intro number inner object lone other identity line
  have hline : line = String.ofList (['\u3000'] ++ objectText [other, identity] ++ ['\r']) := by
    decide +kernel
  have hdigit : ∀ c, Json.isDigit c = true → IsDigits [c] := fun c hc =>
    ⟨List.cons_ne_nil c [], List.forall_mem_singleton.mpr hc⟩
  have hnumber : IsValue number.text :=
    .number (@IsNumber.mk ['-'] ['0'] ['.', '5'] ['e', '+', '1'] (.inr rfl) .zero
      (.present (hdigit '5' rfl))
      (@IsExponent.present 'e' ['+'] ['1'] (.inl rfl) (.inr (.inl rfl)) (hdigit '1' rfl)))
  have hobject : IsValue object.text :=
    .object (List.cons_ne_nil _ _) (List.forall_mem_singleton.mpr ⟨[], rfl, .nil⟩)
      (List.forall_mem_singleton.mpr hnumber)
  have hlone : IsValue lone.text :=
    .string ⟨"\\ud800".toList, rfl, @IsBody.quad "d800".toList [] 0xD800 ⟨rfl, rfl⟩ .nil⟩
  have hvalue : IsValue other.value.text :=
    @IsValue.list [object, lone] (List.cons_ne_nil _ _)
      (List.forall_mem_cons.mpr ⟨hobject, List.forall_mem_singleton.mpr hlone⟩)
  have hface : SpellsChar "\\ud83d\\ude00".toList (Char.ofNat 0x1F600) :=
    @SpellsChar.pair "d83d".toList "de00".toList 0xD83D 0xDE00 ⟨rfl, rfl⟩ ⟨rfl, rfl⟩ (by decide)
      (by decide)
  have hother : IsOther other := by
    refine ⟨⟨String.ofList [Char.ofNat 0x1F600], ⟨"\\ud83d\\ude00".toList, rfl, ?_⟩, by decide,
      by decide⟩, hvalue⟩
    rw [String.toList_ofList]
    exact .cons hface .nil
  have haccent : SpellsChar "\\u00e9".toList '\u00e9' :=
    @SpellsChar.quad "00e9".toList 0xE9 ⟨rfl, rfl⟩ (.inl (by decide))
  have hidentity : IsIdentity ⟨⟨"\u00e9"⟩, []⟩ identity :=
    ⟨isLiteral_quote "network_identity", "\\u00e9".toList, rfl, .cons haccent .nil⟩
  have hpresents : Presents ⟨⟨"\u00e9"⟩, []⟩ [other, identity] :=
    .withoutResolvers hidentity rfl (List.forall_mem_singleton.mpr hother) (.swap _ _ [])
  refine ⟨hpresents, hline, ?_⟩
  rw [hline]
  exact extended_lines_are_read hpresents (List.forall_mem_singleton.mpr rfl)
    (List.forall_mem_singleton.mpr rfl)

end PathKeeper.Source

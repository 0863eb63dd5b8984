import PathKeeper.Proofs.Address.Alphabet
import PathKeeper.Proofs.Text.Trim
import PathKeeper.Resolver

/-!
# The grammar of resolver entries

An entry is a host, perhaps with a zone behind it, perhaps in brackets, and perhaps with blanks
around all of it. It has an address exactly if the host is the text of one.
-/

namespace PathKeeper.Resolver

set_option autoImplicit false

open Text

/-- A host, alone or with a zone behind it. -/
inductive Zoned (host : List Char) : List Char → Prop where
  | alone : Zoned host host
  | zone (zone : List Char) : Zoned host (host ++ '%' :: zone)

/-- The same, as it stands or in brackets. -/
inductive Core (host : List Char) : List Char → Prop where
  | bare {s : List Char} (h : Zoned host s) : Core host s
  | bracketed {s : List Char} (h : Zoned host s) : Core host ('[' :: (s ++ [']']))

/-- The same, with blanks around it. -/
def Names (host raw : List Char) : Prop :=
  ∃ front core back, AllBlank front ∧ AllBlank back ∧ Core host core ∧
    raw = front ++ core ++ back

/-! ## Every entry names what is taken for its host -/

theorem zoned_stripZone (s : List Char) : Zoned (stripZone s) s := by
  have hsplit : stripZone s ++ s.dropWhile (· != '%') = s := List.takeWhile_append_dropWhile
  cases hrest : s.dropWhile (· != '%') with
  | nil =>
    rw [hrest, List.append_nil] at hsplit
    rw [hsplit]
    exact .alone
  | cons c rest =>
    have hc : c = '%' := by
      have hstop := List.head?_dropWhile_not (· != '%') s
      rw [hrest] at hstop
      simpa using hstop
    rw [hrest, hc] at hsplit
    have hzone : Zoned (stripZone s) (stripZone s ++ '%' :: rest) := .zone rest
    rwa [hsplit] at hzone

theorem core_of_unbracket {host s : List Char} (h : Zoned host (unbracket s)) : Core host s := by
  unfold unbracket at h
  split at h
  · split at h
    · next s hlast =>
      obtain ⟨inner, rfl⟩ := List.getLast?_eq_some_iff.mp hlast
      rw [List.dropLast_concat] at h
      exact .bracketed h
    · exact .bare h
  · exact .bare h

theorem names_host (raw : List Char) : Names (host raw) raw := by
  obtain ⟨front, back, hfront, hback, hraw⟩ := exists_trim raw
  exact ⟨front, trim raw, back, hfront, hback, core_of_unbracket (zoned_stripZone _), hraw⟩

/-! ## An entry names no other host that is the text of an address -/

theorem not_mem_of_inAlphabet {c : Char} {s : List Char} (h : InAlphabet s)
    (hc : isAddressChar c = false) : c ∉ s := by
  intro hmem
  rw [h c hmem] at hc
  cases hc

section Hosts

variable {host : List Char} (hne : host ≠ []) (halphabet : InAlphabet host)
include halphabet

theorem stripZone_of_zoned {s : List Char} (h : Zoned host s) : stripZone s = host := by
  have hhost : ∀ c ∈ host, (c != '%') = true := by
    intro c hc
    rw [bne_iff_ne]
    rintro rfl
    exact not_mem_of_inAlphabet halphabet rfl hc
  cases h with
  | alone => exact List.takeWhile_eq_self_iff.mpr hhost
  | zone zone =>
    have hstop : ('%' :: zone).takeWhile (· != '%') = [] := rfl
    rw [stripZone, List.takeWhile_append_of_pos hhost, hstop, List.append_nil]

include hne

theorem unbracket_of_zoned {s : List Char} (h : Zoned host s) : unbracket s = s := by
  obtain ⟨c, rest, rfl⟩ := List.exists_cons_of_ne_nil hne
  have hc : c ≠ '[' := by
    rintro rfl
    exact not_mem_of_inAlphabet halphabet rfl List.mem_cons_self
  have hcons (t : List Char) : unbracket (c :: t) = c :: t := by
    unfold unbracket
    split
    · next heq => exact absurd (List.cons.inj heq).1 hc
    · rfl
  cases h with
  | alone => exact hcons rest
  | zone zone => exact hcons _

/-- Blanks at the end of a zone go, those inside it stay. -/
theorem zoned_trim {s : List Char} (h : Zoned host s) : Zoned host (trim s) := by
  obtain ⟨c, rest, rfl⟩ := List.exists_cons_of_ne_nil hne
  obtain ⟨hc, hrest⟩ := List.forall_mem_cons.mp halphabet
  have hblank : isBlank c = false := isBlank_of_isAddressChar hc
  cases h with
  | alone =>
    have hself : trimEnd rest = rest :=
      trimEnd_eq_self fun d hd => isBlank_of_isAddressChar (hrest d hd)
    rw [trim_cons hblank, hself]
    exact .alone
  | zone zone =>
    have hpercent : isBlank '%' = false := rfl
    rw [List.cons_append, trim_cons hblank, trimEnd_append_cons hpercent]
    exact .zone (trimEnd zone)

theorem host_of_names {raw : List Char} (h : Names host raw) : Resolver.host raw = host := by
  obtain ⟨front, core, back, hfront, hback, hcore, rfl⟩ := h
  rw [Resolver.host, trim_surrounded hfront hback]
  cases hcore with
  | bare hzoned =>
    have htrimmed := zoned_trim hne halphabet hzoned
    rw [unbracket_of_zoned hne halphabet htrimmed, stripZone_of_zoned halphabet htrimmed]
  | @bracketed s hzoned =>
    have hopen : isBlank '[' = false := rfl
    have hclose : isBlank ']' = false := rfl
    have hinner : unbracket ('[' :: (s ++ [']'])) = s := by
      simp [unbracket]
    rw [trim_cons hopen, trimEnd_append_cons hclose, trimEnd_nil, hinner,
      stripZone_of_zoned halphabet hzoned]

end Hosts

/-! ## Parsing -/

theorem parse_eq_ok_iff_spells {raw : String} {address : Address} :
    parse raw = .ok address ↔ Address.Spells (host raw.toList) address := by
  rw [← Address.read_eq_some_iff]
  unfold parse
  split
  · next hnil =>
    constructor
    · intro h
      cases h
    · intro hread
      exact absurd hnil (Address.read_eq_some_iff.mp hread).ne_nil
  · cases Address.read (host raw.toList) with
    | none => simp
    | some found => simp

theorem parse_of_names {host : List Char} {raw : String} {address : Address}
    (h : Names host raw.toList) (hspells : Address.Spells host address) :
    parse raw = .ok address := by
  rw [parse_eq_ok_iff_spells, host_of_names hspells.ne_nil hspells.inAlphabet h]
  exact hspells

/-- An entry has an address if and only if it names a host that is a text of this address; any other
entry is refused as an invalid address. Neither blanks nor brackets nor a zone make a difference to
the address of a host. -/
theorem parse_accepts_its_grammar (raw : String) :
    (∀ address, parse raw = .ok address ↔
        ∃ host, Names host raw.toList ∧ Address.Spells host address) ∧
      ((¬ ∃ host address, Names host raw.toList ∧ Address.Spells host address) →
        ∃ detail, (parse raw).mapError Fault.failure = .error (.invalidAddress detail)) ∧
      ∀ host address, Names host raw.toList → Address.Spells host address →
        ∀ other : String, Names host other.toList → parse other = parse raw := by
  have haccepted (address : Address) : parse raw = .ok address ↔
      ∃ host, Names host raw.toList ∧ Address.Spells host address := by
    constructor
    · intro h
      exact ⟨_, names_host raw.toList, parse_eq_ok_iff_spells.mp h⟩
    · rintro ⟨host, hnames, hspells⟩
      exact parse_of_names hnames hspells
  refine ⟨haccepted, ?_, ?_⟩
  · intro hnone
    cases hparse : parse raw with
    | ok address =>
      obtain ⟨host, hnames, hspells⟩ := (haccepted address).mp hparse
      exact absurd ⟨host, address, hnames, hspells⟩ hnone
    | error fault => exact ⟨fault.detail, rfl⟩
  · intro host address hnames hspells other hother
    rw [parse_of_names hnames hspells, parse_of_names hother hspells]

end PathKeeper.Resolver

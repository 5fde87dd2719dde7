import InteractionRouting.Proofs.Arguments.Values
import InteractionRouting.Proofs.Wire.RoundTrip

/-!
# What was selected in a menu

The values of a menu are resolved one by one, each as a value of the kind that the menu offers.
Where all of them resolve, what was selected is what they resolve to, in their order and as often as
they are there.  Otherwise it is not known, for the first value that is no id in a table that the
kind consults: nothing else can be wrong with a value of a menu.
-/

namespace InteractionRouting

/-- The kind of value that each menu offers.  A button offers nothing. -/
inductive ComponentKind.Offers : ComponentKind → Parameter.Kind → Prop
  | strings : Offers .stringSelect .string
  | users : Offers .userSelect .user
  | roles : Offers .roleSelect .role
  | mentionables : Offers .mentionableSelect .mentionable
  | channels : Offers .channelSelect .channel

namespace ComponentKind

variable {component : ComponentKind} {kind : Parameter.Kind}

/-- What is selected in a menu is of the kind that it offers. -/
theorem selects_of_offers (h : component.Offers kind) :
  component.selects = some kind
  := by
  cases h with
  | strings | users | roles | mentionables | channels => rfl

/-- What is offered are texts or references. -/
theorem Offers.string_or_isReference (h : component.Offers kind) :
  kind = .string ∨ kind.isReference = true
  := by
  cases h with
  | strings => exact .inl rfl
  | users | roles | mentionables | channels => exact .inr rfl

/-- A value of a menu is always of the type it should be. -/
theorem Offers.fits (h : component.Offers kind) (v : String) :
  kind.Fits (.string v)
  := by
  obtain rfl | hkind := h.string_or_isReference
  · apply Parameter.Kind.Fits.string
  · apply Parameter.Kind.Fits.reference hkind

/-- A value of a menu is resolved as it would be under any name. -/
theorem Offers.resolve_eq (h : component.Offers kind) (d : Directory) (name name' v : String) :
  Supplied.resolve d ⟨name, kind, .string v⟩ = Supplied.resolve d ⟨name', kind, .string v⟩
  := by
  obtain rfl | hkind := h.string_or_isReference
  · rfl
  · rw [Supplied.resolve_string_of_isReference hkind rfl,
      Supplied.resolve_string_of_isReference hkind rfl]

/-- What is wrong with a value of a menu is that there is no entity of its id. -/
theorem Offers.of_resolve_eq_error (h : component.Offers kind) {d : Directory} {name v : String}
    {error : ResolutionError} (herror : Supplied.resolve d ⟨name, kind, .string v⟩ = .error error) :
  kind.isReference = true ∧ v ∉ d.ids kind ∧ error = .notFound kind.label
  := by
  obtain ⟨hfits, -⟩ | ⟨hkind, id, hid, hnone, rfl⟩ := Supplied.resolve_eq_error_iff.mp herror
  · apply absurd (h.fits v) hfits
  · obtain rfl := Json.string.inj hid
    exact ⟨hkind, hnone, rfl⟩

end ComponentKind

namespace ComponentEnvelope

/-- The values of a menu are resolved one after the other, under whatever name. -/
theorem selected_eq_mapM {e : ComponentEnvelope} {kind : Parameter.Kind} (h : e.kind.Offers kind)
    (name name' : String) :
  e.selected name = e.values.mapM fun v => Supplied.resolve e.directory ⟨name', kind, .string v⟩
  := by
  rw [selected, ComponentKind.selects_of_offers h]
  simp only [h.resolve_eq e.directory name name']

/-- Whatever was selected in a component, under whatever name, from whatever directory and of
whatever kind:

* in a button nothing is selected, whatever values it carries;
* in a menu of texts the values themselves are selected;
* in any menu the values are resolved as values of the kind that it offers, under whatever name, and
  a value resolves to what it means;
* if each value resolves, what was selected is what they resolve to, one for one;
* otherwise the error is that of the first value that does not resolve, and it says that there is no
  entity of this kind. -/
theorem selected_exact (e : ComponentEnvelope) (name : String) :
  (e.kind = .button → e.selected name = .ok [])
    ∧ (e.kind = .stringSelect → e.selected name = .ok (e.values.map .string))
    ∧ ∀ kind, e.kind.Offers kind → ∀ name' : String,
      let resolve (v : String) := Supplied.resolve e.directory ⟨name', kind, .string v⟩
      (∀ v a, resolve v = .ok a ↔ e.directory.Means kind (.string v) a)
        ∧ (∀ selection, e.selected name = .ok selection
          ↔ List.Forall₂ (fun v a => resolve v = .ok a) e.values selection)
        ∧ ((∃ selection, e.selected name = .ok selection)
          ↔ ∀ v ∈ e.values, ∃ a, resolve v = .ok a)
        ∧ (∀ error, e.selected name = .error error
          ↔ ∃ before v after, e.values = before ++ v :: after
            ∧ (∀ u ∈ before, ∃ a, resolve u = .ok a) ∧ resolve v = .error error)
        ∧ (∀ error, e.selected name = .error error →
            error = .notFound kind.label ∧ kind.isReference = true)
  := by
  refine ⟨?button, ?strings, ?menu⟩
  case button =>
    intro hbutton
    rw [selected, hbutton]
    rfl
  case strings =>
    intro hkind
    have hoffers : e.kind.Offers .string := hkind ▸ .strings
    rw [selected_eq_mapM hoffers name name, Wire.mapM_eq_ok_iff, List.forall₂_map_right_iff,
      List.forall₂_same]
    intro v _
    rfl
  case menu =>
    intro kind hoffers name' resolve
    rw [selected_eq_mapM hoffers name name']
    refine ⟨fun v a => Supplied.resolve_eq_ok_iff, fun selection => Wire.mapM_eq_ok_iff,
      Wire.exists_mapM_eq_ok_iff, fun error => Wire.mapM_eq_error_iff, ?_⟩
    intro error herror
    obtain ⟨-, v, -, -, -, hv⟩ := Wire.mapM_eq_error_iff.mp herror
    obtain ⟨hkind, -, rfl⟩ := hoffers.of_resolve_eq_error hv
    exact ⟨rfl, hkind⟩

/-- One value twice in a menu of roles, and a value in it for which there is no role; the same
values in a menu of texts, and in a button. -/
theorem selected_exact_roles :
  let admin : Role := ⟨"9", "admin", 0, false, false, true, 1, ""⟩
  let directory : Directory := { Directory.empty with roles := .ofList [("9", admin)] }
  let component (kind : ComponentKind) (values : List String) : ComponentEnvelope :=
    ⟨"1", "t", none, "c", none, "m", kind, "0:pick", values, directory⟩
  (component .roleSelect ["9", "9"]).selected "pick" = .ok [.role admin, .role admin]
    ∧ (component .roleSelect ["9", "x", "y"]).selected "pick" = .error (.notFound "role")
    ∧ (component .stringSelect ["9", "x"]).selected "pick" = .ok [.string "9", .string "x"]
    ∧ (component .button ["9", "x"]).selected "pick" = .ok []
  := by
  intro admin directory component
  have hadmin : directory.roles.get? "9" = some admin := rfl
  refine ⟨?_, ?_, (selected_exact _ "pick").2.1 rfl, (selected_exact _ "pick").1 rfl⟩
  · obtain ⟨-, -, hmenu⟩ := selected_exact (component .roleSelect ["9", "9"]) "pick"
    obtain ⟨hresolve, hok, -⟩ := hmenu .role .roles "pick"
    have hrole := (hresolve "9" _).mpr (.role hadmin)
    exact (hok _).mpr (.cons hrole (.cons hrole .nil))
  · obtain ⟨-, -, hmenu⟩ := selected_exact (component .roleSelect ["9", "x", "y"]) "pick"
    obtain ⟨hresolve, -, -, herror, -⟩ := hmenu .role .roles "pick"
    have hrole := (hresolve "9" _).mpr (.role hadmin)
    apply (herror _).mpr
    refine ⟨["9"], "x", ["y"], rfl, ?_, rfl⟩
    rintro u (- | ⟨-, ⟨⟩⟩)
    exact ⟨_, hrole⟩

end ComponentEnvelope

end InteractionRouting

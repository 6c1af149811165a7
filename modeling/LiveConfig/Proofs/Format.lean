import LiveConfig.Proofs.Namespace
import LiveConfig.Proofs.Url.Segment
import LiveConfig.View.Basic

/-!
# Formats of accepted names

The format of a namespace is read off the last extension of its name, and the name that is read is
the canonical one, from which the default suffix has been taken. Behind that suffix another
extension may come to light, and then the canonical name has another format than the given one.

## Main statements

- `ofNamespace_eq_iff`: a name has the format of a document exactly if it ends in its extension.
- `format_of_normalized`: which accepted names keep their format, and what becomes of the others.
- `hidden_document`: a namespace of flat entries that is viewed as a document.
-/

namespace LiveConfig

namespace Format

open Namespace

/-! ## §1 Extensions -/

/-- The name ends in the extension of the format, in any case. -/
def Ends (f : Format) (name : String) : Prop :=
  '.' :: f.extension.toList <:+ name.toList.map Char.toLower

/-- The name ends in the default suffix, and in front of it in the extension of the format. -/
def Hidden (f : Format) (name : String) : Prop :=
  ('.' :: f.extension.toList) ++ defaultSuffix <:+ name.toList.map Char.toLower

instance (f : Format) (name : String) : Decidable (f.Hidden name) :=
  inferInstanceAs (Decidable (_ <:+ _))

theorem dot_not_mem_extension (f : Format) : '.' ∉ f.extension.toList := by
  cases f <;> decide

theorem extensionOf?_append {e : List Char} (h : '.' ∉ e) (front : List Char) :
    extensionOf? (front ++ '.' :: e) = some e := by
  have hplain : ∀ c ∈ e.reverse, (c != '.') = true := by
    intro c hc
    rw [bne_iff_ne]
    rintro rfl
    exact h (List.mem_reverse.1 hc)
  -- Read from the end, the tail is passed over and its dot is where the reading stops.
  rw [extensionOf?, if_pos (by simp), List.reverse_append, List.reverse_cons, List.append_assoc,
    List.takeWhile_append_of_pos hplain]
  simp

/-- **What follows the last dot** is a tail without a dot that has one in front of it. -/
theorem extensionOf?_eq_some_iff {s e : List Char} :
    extensionOf? s = some e ↔ '.' ∉ e ∧ '.' :: e <:+ s := by
  constructor
  · intro h
    have hdot : '.' ∈ s := by
      by_contra hnone
      rw [extensionOf?, if_neg hnone] at h
      cases h
    -- Seen from the end, the last dot is the first one.
    obtain ⟨back, front, hsplit, hback⟩ := List.eq_append_cons_of_mem (List.mem_reverse.2 hdot)
    have hs : s = front.reverse ++ '.' :: back.reverse := by
      rw [← List.reverse_reverse s, hsplit]
      simp
    have hback' : '.' ∉ back.reverse := fun hmem => hback (List.mem_reverse.1 hmem)
    rw [hs, extensionOf?_append hback'] at h
    obtain rfl := Option.some.inj h
    exact ⟨hback', front.reverse, hs.symm⟩
  · rintro ⟨hdot, front, rfl⟩
    exact extensionOf?_append hdot front

theorem toLower_eq_dot_iff {c : Char} : c.toLower = '.' ↔ c = '.' := by
  constructor
  · intro h
    exact Url.Path.eq_of_toLower h (by decide)
  · rintro rfl
    rfl

/-- The case of a name does not matter to where its extension begins. -/
theorem extensionOf?_toLower (s : List Char) :
    extensionOf? (s.map Char.toLower) = (extensionOf? s).map (List.map Char.toLower) := by
  have hdots : (fun c => c != '.') ∘ Char.toLower = fun c => c != '.' := by
    funext c
    rw [Function.comp_apply, Bool.eq_iff_iff, bne_iff_ne, bne_iff_ne, ne_eq, toLower_eq_dot_iff]
  have hmem : '.' ∈ s.map Char.toLower ↔ '.' ∈ s := by
    simp [List.mem_map, toLower_eq_dot_iff]
  unfold extensionOf?
  by_cases hdot : '.' ∈ s
  · rw [if_pos (hmem.2 hdot), if_pos hdot, ← List.map_reverse, List.takeWhile_map, hdots,
      ← List.map_reverse]
    rfl
  · rw [if_neg fun h => hdot (hmem.1 h), if_neg hdot]
    rfl

theorem ends_iff {f : Format} {name : String} :
    f.Ends name ↔ ((extensionOf? name.toList).map fun e => String.ofList (e.map Char.toLower))
      = some f.extension := by
  have hlower : ((extensionOf? name.toList).map fun e => String.ofList (e.map Char.toLower))
      = (extensionOf? (name.toList.map Char.toLower)).map String.ofList := by
    rw [extensionOf?_toLower, Option.map_map]
    rfl
  rw [hlower, Option.map_eq_some_iff]
  constructor
  · intro h
    exact ⟨_, extensionOf?_eq_some_iff.2 ⟨f.dot_not_mem_extension, h⟩, String.ofList_toList⟩
  · rintro ⟨e, he, hext⟩
    have hends := (extensionOf?_eq_some_iff.1 he).2
    rwa [← String.toList_ofList (l := e), hext] at hends

/-- A name that ends in the extension of a format has this format. -/
theorem ofNamespace_of_ends {f : Format} {name : String} (h : f.Ends name) :
    ofNamespace name = f := by
  rw [ofNamespace, ends_iff.1 h]
  cases f <;> rfl

/-- **A name has the format of a document** exactly if it ends in its extension. -/
theorem ofNamespace_eq_iff {f : Format} (hf : f ≠ properties) {name : String} :
    ofNamespace name = f ↔ f.Ends name := by
  refine ⟨fun h => ?_, ofNamespace_of_ends⟩
  rw [ends_iff]
  unfold ofNamespace at h
  split at h
  case h_6 => exact absurd h.symm hf
  all_goals
    next hext =>
      rw [hext, ← h]
      rfl

end Format

/-! ## §2 Accepted names -/

namespace Namespace

variable {given name : String}

/-- Of a name that ends in the default suffix, this and nothing else is taken. -/
theorem toLower_trimmed_of_normalize (h : normalize given = .ok name)
    (hends : EndsInSuffix (Text.trimmed given)) :
    (Text.trimmed given).toList.map Char.toLower
      = name.toList.map Char.toLower ++ defaultSuffix := by
  obtain ⟨front, hfront⟩ := hends
  -- The suffix was found in lower case, and what is taken is of the same length as given.
  obtain ⟨kept, taken, htext, hkept, htaken⟩ := List.map_eq_append_iff.1 hfront.symm
  have hlong : (kept ++ taken).length - defaultSuffix.length = kept.length := by
    rw [← htaken, List.length_map, List.length_append, Nat.add_sub_cancel]
  have hstrip : stripSuffix (kept ++ taken) = kept := by
    rw [stripSuffix, hlong, List.drop_left, if_pos htaken, List.take_left]
  have hname : name.toList = kept := by
    rw [(eq_bareName_of_normalize h).1, bareName, String.toList_ofList, ← hstrip, ← htext,
      Text.trimmed, String.toList_ofList]
  rw [← hfront, hname, hkept]

/-- From any other name nothing is taken. -/
theorem eq_trimmed_of_normalize (h : normalize given = .ok name)
    (hplain : ¬EndsInSuffix (Text.trimmed given)) : name = Text.trimmed given := by
  rw [EndsInSuffix, ← stripSuffix_eq_self_iff, Text.trimmed, String.toList_ofList] at hplain
  rw [(eq_bareName_of_normalize h).1, bareName, hplain, Text.trimmed]

end Namespace

namespace Format

variable {given name : String}

/-- The default suffix is the extension of flat entries. -/
theorem ofNamespace_of_endsInSuffix (h : Namespace.EndsInSuffix name) :
    ofNamespace name = properties :=
  ofNamespace_of_ends (f := properties) h

theorem hidden_iff_of_endsInSuffix (h : Namespace.normalize given = .ok name)
    (hends : Namespace.EndsInSuffix (Text.trimmed given)) (f : Format) :
    f.Hidden (Text.trimmed given) ↔ f.Ends name := by
  rw [Hidden, Namespace.toLower_trimmed_of_normalize h hends, List.suffix_append_self_iff, Ends]

theorem Hidden.endsInSuffix {f : Format} (h : f.Hidden name) : Namespace.EndsInSuffix name :=
  (List.suffix_append _ _).trans h

/-- **Which accepted names keep their format**: all but those that end in the extension of a
document with the default suffix behind it. Such a name is one of flat entries as it is given, and
its namespace is viewed as a document. -/
theorem format_of_normalized {L : Type} {s : Snapshot}
    (h : Namespace.normalize given = .ok s.ns) :
    (ofNamespace s.ns = ofNamespace (Text.trimmed given)
        ↔ ∀ f, f ≠ properties → ¬f.Hidden (Text.trimmed given))
      ∧ (Namespace.EndsInSuffix (Text.trimmed given) →
        ofNamespace (Text.trimmed given) = properties
          ∧ ∀ f, f ≠ properties →
            ((View.ofSnapshot s : View L).format = f ↔ f.Hidden (Text.trimmed given))) := by
  by_cases hends : Namespace.EndsInSuffix (Text.trimmed given)
  · -- The suffix is taken, and the format is read off what stood in front of it.
    have hgiven := ofNamespace_of_endsInSuffix hends
    have hformat (f : Format) (hf : f ≠ properties) :
        ofNamespace s.ns = f ↔ f.Hidden (Text.trimmed given) := by
      rw [ofNamespace_eq_iff hf, hidden_iff_of_endsInSuffix h hends]
    refine ⟨?_, fun _ => ⟨hgiven, hformat⟩⟩
    rw [hgiven]
    constructor
    · intro hflat f hf hhidden
      rw [(hformat f hf).2 hhidden] at hflat
      exact hf hflat
    · intro hnone
      by_contra hdocument
      exact hnone _ hdocument ((hformat _ hdocument).1 rfl)
  · refine ⟨?_, fun hsuffix => absurd hsuffix hends⟩
    rw [Namespace.eq_trimmed_of_normalize h hends]
    exact ⟨fun _ f _ hhidden => hends hhidden.endsInSuffix, fun _ => rfl⟩

/-- With another extension in front of the suffix, which is no document's, the format is kept. -/
theorem format_of_normalized_two_extensions :
    Namespace.normalize " app.v2.Properties " = .ok "app.v2"
      ∧ ofNamespace "app.v2" = ofNamespace "app.v2.Properties" := by
  have h : Namespace.normalize " app.v2.Properties " = .ok (Snapshot.empty "app.v2").ns := by
    decide
  refine ⟨h, (format_of_normalized (L := Unit) h).1.2 fun f hf => ?_⟩
  cases f <;> first | exact absurd rfl hf | decide

/-- **A namespace of flat entries that is viewed as a document**: behind the suffix another
extension comes to light, and the entries cannot be viewed. -/
theorem hidden_document :
    Namespace.normalize "a.json.properties" = .ok "a.json"
      ∧ ofNamespace "a.json.properties" = properties
      ∧ ofNamespace "a.json" = json
      ∧ (View.ofSnapshot ⟨"a.json", some "r1", .remote, .ofList [("k", "v")]⟩
          : View Unit).properties
        = .error .missingContent :=
  ⟨by decide, by decide, by decide, rfl⟩

end Format

end LiveConfig

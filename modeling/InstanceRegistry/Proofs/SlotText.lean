import InstanceRegistry.Slot
import InstanceRegistry.Ty.Catalogue

/-!
# Printed slots

A slot is printed as its type, followed by a colon and the name if there is one. The name may hold
colons of its own, and it may be empty, in which case there is no colon at all. As long as the type
prints without a colon, the first colon of the text is the one between the two, so type and name can
be read back. What cannot be read back is the type itself, since two types may print alike.
-/

namespace InstanceRegistry.Slot

/-- Reads a printed slot: what stands before the first colon, and what stands after it. -/
def readText (text : String) : String × String :=
  (String.ofList (text.toList.takeWhile (· != ':')),
    String.ofList ((text.toList.dropWhile (· != ':')).drop 1))

/-- The characters of a printed slot are those of the type, and after a colon those of the name. -/
theorem toList_text (s : Slot) :
    s.text.toList = s.type.text.toList ++ if s.name = "" then [] else ':' :: s.name.toList := by
  by_cases hname : s.name = ""
  · simp [text, hname]
  · simp [text, hname, String.toList_append]

/-- A slot whose type prints without a colon is read back as it was printed. -/
theorem readText_text {s : Slot} (h : ':' ∉ s.type.text.toList) :
    readText s.text = (s.type.text, s.name) := by
  have hpos : ∀ c ∈ s.type.text.toList, (c != ':') = true := by
    intro c hc
    simp only [bne_iff_ne, ne_eq]
    rintro rfl
    exact h hc
  simp only [readText, toList_text, List.takeWhile_append_of_pos hpos,
    List.dropWhile_append_of_pos hpos]
  by_cases hname : s.name = ""
  · simp [hname]
  · simp [hname]

/-- What is printed alike has types that print alike and the same name. -/
theorem text_eq_text_iff {s s' : Slot} (h : ':' ∉ s.type.text.toList)
    (h' : ':' ∉ s'.type.text.toList) :
    s.text = s'.text ↔ s.type.text = s'.type.text ∧ s.name = s'.name := by
  constructor
  · intro htext
    have hread : (s.type.text, s.name) = (s'.type.text, s'.name) := by
      rw [← readText_text h, ← readText_text h', htext]
    exact Prod.mk.inj hread
  · rintro ⟨htype, hname⟩
    rw [text, text, htype, hname]

/-- Printed slots are unambiguous up to the printed type. If the types print without a colon, two
slots are printed alike just if their types are and their names are the same, whatever colons the
names have. So two different slots are printed alike just if they have the same name and different
types that are printed alike. -/
theorem text_unambiguous {s s' : Slot} (h : ':' ∉ s.type.text.toList)
    (h' : ':' ∉ s'.type.text.toList) :
    (s.text = s'.text ↔ s.type.text = s'.type.text ∧ s.name = s'.name) ∧
      (s.text = s'.text ∧ s ≠ s' ↔
        s.name = s'.name ∧ s.type ≠ s'.type ∧ s.type.text = s'.type.text) := by
  refine ⟨text_eq_text_iff h h', ?_⟩
  rw [text_eq_text_iff h h']
  constructor
  · rintro ⟨⟨htype, hname⟩, hne⟩
    refine ⟨hname, fun hsame => hne ?_, htype⟩
    obtain ⟨type, name⟩ := s
    obtain ⟨type', name'⟩ := s'
    obtain rfl : type = type' := hsame
    obtain rfl : name = name' := hname
    rfl
  · rintro ⟨hname, hne, htype⟩
    exact ⟨⟨htype, hname⟩, fun hsame => hne (congrArg Slot.type hsame)⟩

end InstanceRegistry.Slot

namespace InstanceRegistry

/-! ### Types that print alike -/

namespace Sample

/-- A pointer to a configuration of one package, with a colon in the name. -/
def alphaConfig : Slot :=
  ⟨.pointer (.base (Ty.Catalogue.record "alpha.Config" "config.Config" .text)), "a:b"⟩

/-- The same for another package, whose type prints alike. -/
def betaConfig : Slot :=
  ⟨.pointer (.base (Ty.Catalogue.record "beta.Config" "config.Config" .text)), "a:b"⟩

end Sample

/-- The two slots are printed alike and differ, and the default slot of the type is printed in
another way than that whose name is a colon. -/
theorem Slot.text_unambiguous_alike :
    Sample.alphaConfig.text = "*config.Config:a:b" ∧
      (Sample.alphaConfig.text = Sample.betaConfig.text ∧ Sample.alphaConfig ≠ Sample.betaConfig) ∧
      Slot.text ⟨Sample.alphaConfig.type, ""⟩ ≠ Slot.text ⟨Sample.betaConfig.type, ":"⟩ := by
  have halpha : ':' ∉ Sample.alphaConfig.type.text.toList := by decide
  have hbeta : ':' ∉ Sample.betaConfig.type.text.toList := by decide
  obtain ⟨-, hslots⟩ := text_unambiguous halpha hbeta
  obtain ⟨htexts, -⟩ :=
    @text_unambiguous ⟨Sample.alphaConfig.type, ""⟩ ⟨Sample.betaConfig.type, ":"⟩ halpha hbeta
  have hname : "" ≠ ":" := by decide
  exact ⟨rfl, hslots.mpr ⟨rfl, by decide, rfl⟩, fun htext => hname (htexts.mp htext).2⟩

end InstanceRegistry

import PrototypeLens.Proofs.Program.Checks

/-!
# Programs with archives

A program whose files may lie in one archive that has nothing but a manifest, and one that has the
generator on its class path. Both stay consistent: archives make no difference to what names stand
for.
-/

namespace PrototypeLens

/-- The bytes of a text of ASCII characters. -/
def Text.Utf8.ofAscii (text : String) : List Byte := text.toList.map fun c => .ofNat c.toNat

namespace Program

/-- The program next to an archive with a manifest. -/
def withLibrary (p : Program) (manifest : String) : Program :=
  { p with archives :=
      { tree := ⟨[(["lib.jar"],
        some (.jar [("binis/annotations", Text.Utf8.ofAscii manifest)]))]⟩ } }

/-- The program with the generator on the class path. -/
def withGenerator (p : Program) : Program :=
  { p with
    classpath := ["code-generator-1.2.13.jar"]
    archives :=
      { tree := ⟨[(["code-generator-1.2.13.jar"],
        some (.jar [("META-INF/MANIFEST.MF",
          Text.Utf8.ofAscii "Implementation-Vendor: Binis Belev\n")]))]⟩ } }

namespace Consistent

variable {p : Program}

/-- Archives make no difference to what stands for what. -/
theorem withLibrary (h : p.Consistent) (manifest : String) :
    (p.withLibrary manifest).Consistent where
  ready := h.ready
  cancelled := h.cancelled
  faults := h.faults
  sound := h.sound
  complete := h.complete
  files := h.files
  fresh := h.fresh

theorem withGenerator (h : p.Consistent) : p.withGenerator.Consistent where
  ready := h.ready
  cancelled := h.cancelled
  faults := h.faults
  sound := h.sound
  complete := h.complete
  files := h.files
  fresh := h.fresh

end Consistent

end Program

end PrototypeLens

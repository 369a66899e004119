import SetupForge.Text.Blank
import SetupForge.Text.LetterCase

/-! # Build levels

How a project is published and how its setup provides the .NET runtime. The levels are
ordered, and setups provide the runtime from `netInstallIncluded` on.
-/

namespace SetupForge

/-- The build levels, from the least to the most that a setup does. -/
inductive BuildLevel where
  | none
  | minimum
  /-- The program carries its own runtime. -/
  | standAlone
  | netInstallIncluded
  /-- The setup downloads the runtime installer when it is needed. -/
  | netInstallDownload
deriving DecidableEq, Repr

namespace BuildLevel

def rank : BuildLevel → Nat
  | .none => 0
  | .minimum => 1
  | .standAlone => 2
  | .netInstallIncluded => 3
  | .netInstallDownload => 4

instance : LE BuildLevel := ⟨fun a b => a.rank ≤ b.rank⟩

instance : LT BuildLevel := ⟨fun a b => a.rank < b.rank⟩

instance (a b : BuildLevel) : Decidable (a ≤ b) := inferInstanceAs (Decidable (a.rank ≤ b.rank))

instance (a b : BuildLevel) : Decidable (a < b) := inferInstanceAs (Decidable (a.rank < b.rank))

def all : List BuildLevel :=
  [.none, .minimum, .standAlone, .netInstallIncluded, .netInstallDownload]

def name : BuildLevel → String
  | .none => "NONE"
  | .minimum => "MINIMUM"
  | .standAlone => "STAND_ALONE"
  | .netInstallIncluded => "NET_INSTALL_INCLUDED"
  | .netInstallDownload => "NET_INSTALL_DOWNLOAD"

def providesRuntime (level : BuildLevel) : Bool := netInstallIncluded ≤ level

def ofRank? (rank : Int) : Option BuildLevel := all.find? fun level => (level.rank : Int) == rank

def ofName? (name : String) : Option BuildLevel := all.find? (·.name == name)

def withoutSeparators (name : List Char) : List Char :=
  name.filter fun c => c ≠ '_' ∧ c ≠ '-' ∧ c ≠ ' '

/-- The level that a text names: case, separators and blanks at the ends do not matter, and a
text of nothing else is no level. -/
def ofText? (text : String) : Option BuildLevel :=
  let key := withoutSeparators (Text.trimChars text.toList)
  if key.isEmpty then some .none
  else all.find? fun level =>
    Text.lowerChars (withoutSeparators level.name.toList) == Text.lowerChars key

@[simp] theorem le_iff {a b : BuildLevel} : a ≤ b ↔ a.rank ≤ b.rank := Iff.rfl

end BuildLevel

end SetupForge

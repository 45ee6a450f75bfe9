import DensityGraph.Proofs.Sampling.Independence
import DensityGraph.Proofs.Workspace.Reachable

/-!
# Draws of siblings

All draws of an observation share the values drawn so far.  The factors of a
product and the conditionals of a joint generate different parameters, but one
of them may read what another one has drawn: it is independent of its siblings
exactly as far as it does not.
-/

namespace DensityGraph.Workspace

open DensityGraph.Sampling
open DensityGraph.Random (Stream)

variable {w : Workspace} {name : String} {d : Density}

/-- A product of an even density and of a normal one whose mean the first one
draws. -/
def meanDrawnBefore : String := "PROD::p(Uniform::u(x[0,1]),Gaussian::g(y[-9,9],x,s[1,0.5,2]))"

/-- Random words for a quarter of an even range and for the middle of a normal
density. -/
def quarterThenMiddle : Stream := Stream.ofWords [0x4000000000000000, 0x8000000000000000]

/-- What is left behind the first word and the value that it stands for. -/
def afterQuarter : State := ⟨[("x", 0.25)], Stream.ofWords [0x8000000000000000]⟩

end DensityGraph.Workspace

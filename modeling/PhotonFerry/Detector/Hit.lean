import PhotonFerry.Detector.Catalog
import PhotonFerry.Detector.Response
import PhotonFerry.Optics.Origin
import PhotonFerry.Sample.Photoelectron
/-!
# Hits

A hit is a photoelectron attributed to a photomultiplier of the detector. The
energy of its photon in MeV and the wavelength in nm are each the product of
Planck's constant and the speed of light over the other.
-/

namespace PhotonFerry

namespace Optics

/-- Planck's constant times the speed of light, in MeV nm. -/
def hc : Float := 1.239841984e-3

/-- The wavelength of a photon of the given energy. -/
def wavelengthOfEnergy (energy : Float) : Float :=
  hc / energy

/-- The energy of a photon of the given wavelength. -/
def energyOfWavelength (wavelength : Float) : Float :=
  hc / wavelength

end Optics

/-- A photoelectron on a photomultiplier: wavelength in nm, momentum in MeV,
times in ns. -/
structure Hit where
  id : UInt32
  kind : Int
  wavelength : Float
  momentum : Point Float
  polarization : Point Float
  position : Point Float
  hitTime : Float
  frontEndTime : Float
  charge : Float
  creator : Origin

/-- The momentum of a photon of the given wavelength; without a positive
wavelength there is none. -/
def photonMomentum (wavelength : Float) (direction : Point Float) : Point Float :=
  if 0.0 < wavelength then direction.scale (Optics.energyOfWavelength wavelength)
  else Point.zero

/-- The hit of a photoelectron on the photomultiplier that stands under an id. The
response picks the time before the charge. -/
def Hit.of {ρ : Type} [Response ρ] (sample : Photoelectron) (id : UInt32)
    (target : Photomultiplier) (response : ρ) : Hit × ρ :=
  let wavelength := sample.wavelength.widen
  let hitTime := sample.time.widen
  let (frontEndTime, response) := Response.pickTime target.model hitTime response
  let (charge, response) := Response.pickCharge target.model response
  ({ id
     kind := target.kind
     wavelength := wavelength
     momentum := photonMomentum wavelength sample.direction.widen
     polarization := sample.polarization.widen
     position := target.position
     hitTime := hitTime
     frontEndTime := frontEndTime
     charge := target.chargeScale * charge
     creator := Origin.ofFlags sample.flags }, response)

end PhotonFerry

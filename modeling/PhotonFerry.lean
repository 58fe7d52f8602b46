import PhotonFerry.Main
import PhotonFerry.Backend.Prepared
import PhotonFerry.Link.Scripted
import PhotonFerry.Proofs.Client.FailedStarts
import PhotonFerry.Proofs.Client.Unstarted
import PhotonFerry.Proofs.Client.Photoelectrons
import PhotonFerry.Proofs.Client.Retries
import PhotonFerry.Proofs.Run.Agreement
import PhotonFerry.Proofs.Wire.Envelope
import PhotonFerry.Proofs.Wire.Reply
import PhotonFerry.Proofs.Wire.Stream
import PhotonFerry.Proofs.Wire.Photons
import PhotonFerry.Proofs.Recording.Order
import PhotonFerry.Proofs.Run.Ledger
import PhotonFerry.Proofs.Run.Lifecycle
import PhotonFerry.Proofs.Run.Resilience
import PhotonFerry.Proofs.Sample.Fields
import PhotonFerry.Proofs.Recording.Keys
import PhotonFerry.Proofs.Recording.Latest
import PhotonFerry.Proofs.Sample.Edits
import PhotonFerry.Proofs.CommandLine.Replay
import PhotonFerry.Proofs.Recording.Loading
import PhotonFerry.Proofs.Geometry.Relabelling
import PhotonFerry.Proofs.Recording.Numbering
import PhotonFerry.Proofs.Recording.Transactions
import PhotonFerry.Proofs.Client.Remarks
import PhotonFerry.Proofs.Client.Warnings
import PhotonFerry.Proofs.Geometry.FirstMatch
import PhotonFerry.Proofs.Wire.Descriptions
import PhotonFerry.Proofs.Wire.Requests
import PhotonFerry.Proofs.Logging.Retention
import PhotonFerry.Proofs.Config.Overrides
import PhotonFerry.Proofs.Endpoint.MissingPorts
import PhotonFerry.Proofs.Wire.Buffering
import PhotonFerry.Proofs.Wire.FlatFrames

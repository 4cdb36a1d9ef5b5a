import WindowRouting.Json.Fields
import WindowRouting.Scenario.Run
import WindowRouting.Proofs.Erasure
import WindowRouting.Proofs.Closing
import WindowRouting.Proofs.Handles
import WindowRouting.Proofs.HandleOrder
import WindowRouting.Proofs.Announcing
import WindowRouting.Proofs.Segmentation
import WindowRouting.Proofs.Agreement
import WindowRouting.Proofs.Boundary
import WindowRouting.Proofs.Steps.Delivery
import WindowRouting.Proofs.Creations
import WindowRouting.Proofs.Addressing
import WindowRouting.Proofs.ClockOrigin
import WindowRouting.Proofs.Reentry
import WindowRouting.Proofs.NewWindow
import WindowRouting.Proofs.Interleaving
import WindowRouting.Proofs.Arena
import WindowRouting.Proofs.HandleSearch
import WindowRouting.Proofs.HandleReference
import WindowRouting.Proofs.RepeatedInsertion
import WindowRouting.Proofs.ButtonTracking
import WindowRouting.Proofs.Momentum
import WindowRouting.Proofs.Commitment
import WindowRouting.Proofs.UnknownWindows
import WindowRouting.Proofs.ScaleFactors
import WindowRouting.Proofs.Json.Records
import WindowRouting.Proofs.ModifierText
import WindowRouting.Proofs.SessionLog

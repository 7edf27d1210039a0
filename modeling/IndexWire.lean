import IndexWire.Log.Template
import IndexWire.Main
import IndexWire.Proofs.CommandLine.Collections
import IndexWire.Proofs.Log.FailedSetup
import IndexWire.Proofs.Log.Families
import IndexWire.Proofs.Session.Accounting
import IndexWire.Proofs.Session.Interleaving
import IndexWire.Proofs.Session.Policies
import IndexWire.Proofs.Session.Scratch
import IndexWire.Proofs.Session.Sequential
import IndexWire.Proofs.Settings.Layers
import IndexWire.Proofs.Sink.Agreement
import IndexWire.Proofs.Sink.FailedCopy
import IndexWire.Proofs.Sink.Respelling
import IndexWire.Proofs.Text.Appending
import IndexWire.Proofs.Text.Replacement
import IndexWire.Proofs.Wire.Shortest
import IndexWire.Proofs.Wire.Truncation
import IndexWire.Proofs.Wire.Widths
import IndexWire.Proofs.Wire.Words
import IndexWire.Proofs.Zigzag
import IndexWire.Session.Basic

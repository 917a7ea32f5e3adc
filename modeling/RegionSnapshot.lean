import RegionSnapshot.Text.Blank
import RegionSnapshot.Text.Split
import RegionSnapshot.Text.Case
import RegionSnapshot.Text.Utf8
import RegionSnapshot.Decimal.Numeral
import RegionSnapshot.Decimal.Literal
import RegionSnapshot.Decimal.Nearest
import RegionSnapshot.Entries
import RegionSnapshot.Json.Basic
import RegionSnapshot.Json.Reader
import RegionSnapshot.Json.Printer
import RegionSnapshot.Key
import RegionSnapshot.Typed.Schema
import RegionSnapshot.Snapshot.Document
import RegionSnapshot.Region.Basic
import RegionSnapshot.Settings
import RegionSnapshot.Gate
import RegionSnapshot.Expression.Template
import RegionSnapshot.Stream.Sink
import RegionSnapshot.Stream.Source
import RegionSnapshot.Files.Tree
import RegionSnapshot.Cache
import RegionSnapshot.CommandLine.Run
import RegionSnapshot.Main
import RegionSnapshot.Proofs.Json.ReadBack
import RegionSnapshot.Proofs.Snapshot.RoundTrip
import RegionSnapshot.Proofs.Exchange.Save
import RegionSnapshot.Proofs.Cache.Regions
import RegionSnapshot.Proofs.Cache.Runs
import RegionSnapshot.Proofs.Snapshot.Native
import RegionSnapshot.Proofs.Exchange.Import
import RegionSnapshot.Proofs.Portable.Captured
import RegionSnapshot.Proofs.Snapshot.Settled
import RegionSnapshot.Proofs.Typed.Order
import RegionSnapshot.Proofs.Typed.Payload
import RegionSnapshot.Proofs.Expression.Sentences
import RegionSnapshot.Proofs.Expression.Templates
import RegionSnapshot.Proofs.Stream.Slices
import RegionSnapshot.Proofs.Stream.Pieces
import RegionSnapshot.Proofs.Cache.Listeners
import RegionSnapshot.Proofs.Snapshot.Acceptance
import RegionSnapshot.Proofs.Snapshot.Edited
import RegionSnapshot.Proofs.Snapshot.FreeForm
import RegionSnapshot.Proofs.Exchange.Location
import RegionSnapshot.Proofs.Files.Writable
import RegionSnapshot.Proofs.Exchange.Contents
import RegionSnapshot.Proofs.Exchange.Export
import RegionSnapshot.Proofs.Region.Edits
import RegionSnapshot.Proofs.Region.Paths
import RegionSnapshot.Proofs.Expression.Quoting
import RegionSnapshot.Proofs.Expression.Defaults
import RegionSnapshot.Proofs.CommandLine.Normalize
import RegionSnapshot.Proofs.Gate

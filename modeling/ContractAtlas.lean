import ContractAtlas.Artifacts
import ContractAtlas.Main
import ContractAtlas.Program
import ContractAtlas.Storage
import ContractAtlas.Proofs.Layout.Packing
import ContractAtlas.Proofs.Layout.Slots
import ContractAtlas.Proofs.Storage.Reading
import ContractAtlas.Proofs.Storage.Field
import ContractAtlas.Proofs.Storage.PackedStore
import ContractAtlas.Proofs.BigEndian
import ContractAtlas.Proofs.Text.Trimming
import ContractAtlas.Proofs.Text.Utf8
import ContractAtlas.Proofs.Json.Grammar
import ContractAtlas.Proofs.Json.Written
import ContractAtlas.Proofs.Json.Lexemes
import ContractAtlas.Proofs.Json.Skipping
import ContractAtlas.Proofs.Json.Decoding
import ContractAtlas.Proofs.Layout.Decoding
import ContractAtlas.Proofs.Layout.RoundTrip
import ContractAtlas.Proofs.Layout.SlotView
import ContractAtlas.Proofs.Layout.FirstFault
import ContractAtlas.Proofs.Layout.Footprint
import ContractAtlas.Proofs.Registration
import ContractAtlas.Proofs.Json.Members
import ContractAtlas.Proofs.Layout.Members
import ContractAtlas.Proofs.Layout.Schema
import ContractAtlas.Proofs.Storage.Mapping
import ContractAtlas.Proofs.Storage.Overflow
import ContractAtlas.Proofs.Storage.OwnBytes
import ContractAtlas.Proofs.Hex
import ContractAtlas.Proofs.Code.HexText
import ContractAtlas.Proofs.Code.Trailer
import ContractAtlas.Proofs.Code.Version
import ContractAtlas.Proofs.Code.Scan
import ContractAtlas.Proofs.Layout.Numerals
import ContractAtlas.Proofs.Layout.SharedSlot
import ContractAtlas.Proofs.Arithmetic.Machine
import ContractAtlas.Proofs.Arithmetic.Exactness
import ContractAtlas.Proofs.Json.Truncation
import ContractAtlas.Proofs.Json.TruncatedShapes
import ContractAtlas.Proofs.Layout.Truncated
import ContractAtlas.Proofs.Report.Text
import ContractAtlas.Proofs.Report.Colours
import ContractAtlas.Proofs.Report.Rows

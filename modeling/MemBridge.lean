import MemBridge.Word
import MemBridge.Text.Blank
import MemBridge.Report.Piece
import MemBridge.Kind
import MemBridge.Fault
import MemBridge.Kind.Parse
import MemBridge.Image.Format
import MemBridge.Text.Number
import MemBridge.Layout.Basic
import MemBridge.Layout.Runs
import MemBridge.Layout.Text
import MemBridge.Image.Layout
import MemBridge.Frame.Description
import MemBridge.Decimal.Binary
import MemBridge.Json.Value
import MemBridge.Json.Cursor
import MemBridge.Json.Number
import MemBridge.Json.Text
import MemBridge.Json.Parse
import MemBridge.Decimal.Shortest
import MemBridge.Decimal.Text
import MemBridge.Report.Doc
import MemBridge.Console.Decode
import MemBridge.Console.Basic
import MemBridge.Console.Metadata
import MemBridge.Console.Config
import MemBridge.Console.Host
import MemBridge.Metadata.Dictionary
import MemBridge.Metadata.Geometry
import MemBridge.Metadata.Records
import MemBridge.Text.Quoted
import MemBridge.Config.Read
import MemBridge.Config.Options
import MemBridge.Host.Heap
import MemBridge.Host.Pool
import MemBridge.Sync.Fence
import MemBridge.Audit.Ledger
import MemBridge.Handle
import MemBridge.Device.Basic
import MemBridge.Tensor.Basic
import MemBridge.Frame.Basic
import MemBridge.Context.Basic
import MemBridge.Mapper.Basic
import MemBridge.Store.Basic
import MemBridge.Store.Release
import MemBridge.Device.Resources
import MemBridge.Tensor.Build
import MemBridge.Tensor.View
import MemBridge.Frame.Build
import MemBridge.Frame.Lineage
import MemBridge.Context.Session
import MemBridge.Mapper.Direct
import MemBridge.Context.Registry
import MemBridge.Mapper.Transfer
import MemBridge.Mapper.Run
import MemBridge.Mapper.Resolve
import MemBridge.Context.Allocate
import MemBridge.Console.Describe
import MemBridge.Console.Session
import MemBridge.Console.Setup
import MemBridge.Console.Objects
import MemBridge.Console.Script
import MemBridge.Console.Answer
import MemBridge.Proofs.Store.Basic
import MemBridge.Proofs.Store.Extends
import MemBridge.Proofs.Store.Release
import MemBridge.Proofs.Device.Extends
import MemBridge.Proofs.Tensor.Extends
import MemBridge.Proofs.Mapper.Extends
import MemBridge.Proofs.Mapper.Nesting
import MemBridge.Proofs.Mapper.Slots
import MemBridge.Proofs.Mapper.Cache
import MemBridge.Proofs.Mapper.Ends
import MemBridge.Proofs.Context.Registry
import MemBridge.Proofs.Mapper.Resolution
import MemBridge.Proofs.Context.History
import MemBridge.Proofs.Device.Limit
import MemBridge.Proofs.Device.Adds
import MemBridge.Proofs.Mapper.Routes
import MemBridge.Proofs.Layout.Elements
import MemBridge.Proofs.Host.Bytes
import MemBridge.Proofs.Host.Recycling
import MemBridge.Proofs.Device.Rounding
import MemBridge.Proofs.Tensor.Slice
import MemBridge.Proofs.Frame.Region
import MemBridge.Proofs.Frame.Carve
import MemBridge.Proofs.Layout.Access
import MemBridge.Proofs.Layout.Text
import MemBridge.Proofs.Layout.Extent
import MemBridge.Proofs.Mapper.Contract
import MemBridge.Proofs.Lineage.Links
import MemBridge.Proofs.Lineage.Parent
import MemBridge.Proofs.Lineage.Operations
import MemBridge.Proofs.Lineage.Mapping
import MemBridge.Proofs.Lineage.History
import MemBridge.Proofs.Metadata.Records
import MemBridge.Proofs.Metadata.Names
import MemBridge.Proofs.Mapper.Failure
import MemBridge.Proofs.Store.Closed
import MemBridge.Proofs.Frame.Pool
import MemBridge.Proofs.Frame.Fallback
import MemBridge.Proofs.Mapper.Layouts
import MemBridge.Proofs.Frame.Regions
import MemBridge.Proofs.Mapper.Endpoints
import MemBridge.Proofs.Device.Copies
import MemBridge.Proofs.Metadata.Dictionary
import MemBridge.Proofs.Mapper.Chain
import MemBridge.Proofs.Device.Surface
import MemBridge.Proofs.Mapper.Ledger
import MemBridge.Proofs.Tensor.Backing
import MemBridge.Proofs.Mapper.Import

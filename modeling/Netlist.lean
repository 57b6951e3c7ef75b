import Netlist.Identifier
import Netlist.Handshake
import Netlist.FreshName
import Netlist.NameTable
import Netlist.Arena
import Netlist.Net
import Netlist.Component
import Netlist.Diagnostic.Render
import Netlist.Diagnostic.Sink
import Netlist.Diagnostic.Stored
import Netlist.Digest.XXH3
import Netlist.Chip.Instances
import Netlist.Chip.Nets
import Netlist.Chip.Summary
import Netlist.Verilog.Output
import Netlist.Text.Printable
import Netlist.Decimal.Shortest
import Netlist.Text.Quoted
import Netlist.Toml.Document
import Netlist.Toml.Record
import Netlist.Component.Library
import Netlist.Manifest.Load
import Netlist.Project
import Netlist.Command
import Netlist.Main
import Netlist.Proofs.Chip.Binding
import Netlist.Proofs.Names.Fresh
import Netlist.Proofs.Chip.Growth
import Netlist.Proofs.Chip.Acceptance
import Netlist.Proofs.Chip.Wiring
import Netlist.Proofs.Chip.Namespace
import Netlist.Proofs.Verilog.Source
import Netlist.Proofs.Verilog.Reading
import Netlist.Proofs.Verilog.PointToPoint
import Netlist.Proofs.Chip.Creations
import Netlist.Proofs.Verilog.Scoping
import Netlist.Proofs.Project.Entries
import Netlist.Proofs.Chip.Design
import Netlist.Proofs.Chip.Ports
import Netlist.Proofs.Project.Plans
import Netlist.Proofs.Project.Order
import Netlist.Proofs.Chip.Persistence
import Netlist.Proofs.Component.Registration
import Netlist.Proofs.Project.Accounting
import Netlist.Proofs.Project.Errors
import Netlist.Proofs.Command.Agreement
import Netlist.Proofs.Verilog.Conservation
import Netlist.Proofs.Project.Blame
import Netlist.Proofs.Chip.Clashes
import Netlist.Proofs.Chip.AutomaticNames
import Netlist.Proofs.Files.Paths
import Netlist.Proofs.Files.Requests
import Netlist.Proofs.Command.Destination
import Netlist.Proofs.Command.Delivery
import Netlist.Proofs.Chip.NetIndex
import Netlist.Proofs.Project.Resolution
import Netlist.Proofs.Chip.Completeness
import Netlist.Proofs.Component.Ownership
import Netlist.Proofs.Component.TwoMaps
import Netlist.Proofs.Project.Loading
import Netlist.Proofs.Component.Declarations
import Netlist.Proofs.Names.Reserved
import Netlist.Proofs.Names.ChipName
import Netlist.Proofs.Diagnostic.Runs
import Netlist.Proofs.Toml.Lines
import Netlist.Proofs.Files.Written
import Netlist.Proofs.Command.FreshProject
import Netlist.Proofs.Project.Instances
import Netlist.Proofs.Command.Emitted
import Netlist.Proofs.Net.Assignment
import Netlist.Proofs.Diagnostic.Rendering
import Netlist.Proofs.Json.Records

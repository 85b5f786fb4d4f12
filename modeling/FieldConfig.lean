import FieldConfig.Main
import FieldConfig.Proofs.Compilation.Polling
import FieldConfig.Proofs.Resolution.Consistency
import FieldConfig.Proofs.Resolution.Cycle
import FieldConfig.Proofs.Compilation.Serving
import FieldConfig.Proofs.Network.Building
import FieldConfig.Proofs.Resolution.Multiplicity
import FieldConfig.Proofs.Compilation.Independence
import FieldConfig.Proofs.Compilation.Part
import FieldConfig.Proofs.Compilation.Modularity
import FieldConfig.Proofs.Compilation.Brokers
import FieldConfig.Proofs.Compilation.Reordering
import FieldConfig.Proofs.Compilation.Manifest
import FieldConfig.Proofs.Encoding.Outline
import FieldConfig.Proofs.Network.Unnumbered
import FieldConfig.Proofs.Compilation.Isolation
import FieldConfig.Proofs.Compilation.Binding
import FieldConfig.Proofs.Xml.Reader
import FieldConfig.Proofs.Document.Reading
import FieldConfig.Proofs.Document.Elements
import FieldConfig.Proofs.Document.Program
import FieldConfig.Proofs.Document.Nesting
import FieldConfig.Proofs.Document.Formats
import FieldConfig.Proofs.CommandLine.Delivery
import FieldConfig.Proofs.Allocation.Counting
import FieldConfig.Proofs.Allocation.Modbus
import FieldConfig.Proofs.Allocation.Dnp3
import FieldConfig.Proofs.Allocation.Runs
import FieldConfig.Proofs.Encoding.Wires
import FieldConfig.Proofs.Compilation.Certificates
import FieldConfig.Proofs.Compilation.Federates
import FieldConfig.Proofs.Compilation.Addressing
import FieldConfig.Proofs.Compilation.Tables
import FieldConfig.Proofs.Catalog.Merging
import FieldConfig.Proofs.Federation.Conflicts
import FieldConfig.Proofs.Federation.Bindings
import FieldConfig.Proofs.Federation.Collisions
import FieldConfig.Proofs.Compilation.Faults
import FieldConfig.Proofs.Table.Building
import FieldConfig.Proofs.Register.History
import FieldConfig.Proofs.Resolution.Recursion
import FieldConfig.Proofs.Resolution.Work
import FieldConfig.Proofs.Resolution.Life
import FieldConfig.Proofs.Net.Address
import FieldConfig.Proofs.Endpoint.Reading
import FieldConfig.Proofs.Endpoint.Literals
import FieldConfig.Proofs.Net.Continuation

import AttrBinder.Main
import AttrBinder.Proofs.Attribute.Resuming
import AttrBinder.Proofs.Binder.Caching
import AttrBinder.Proofs.Binder.FailedBinding
import AttrBinder.Proofs.Binder.Refusal
import AttrBinder.Proofs.Binder.TwoWay
import AttrBinder.Proofs.Compile.Containment
import AttrBinder.Proofs.Compile.Located
import AttrBinder.Proofs.Compile.Moving
import AttrBinder.Proofs.Console.Agreement
import AttrBinder.Proofs.Reactive.Circular
import AttrBinder.Proofs.Reactive.Disposal
import AttrBinder.Proofs.Reactive.Fuel
import AttrBinder.Proofs.Reactive.Laziness
import AttrBinder.Proofs.Reactive.SelfWrites

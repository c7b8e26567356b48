import Marketplace.Order.Statements
import Marketplace.Proofs.Sql.Reading

/-!
# Orders and products in the columns of a row

A reply tells the columns of a row in the order in which its statement lists them.

* `OrderColumn`, `ProductColumn`, `ImageColumn`: the columns by name.
* `lockOrder_eq`, `lockProduct_eq`, `insertOrder_eq`, `loadOrders_sql` and `firstImages_eq` tie the
  statements to them: each lists the columns of one of `OrderColumn.locked`, … `ImageColumn.listed`.
  The rows of `basketOrderIds_eq` and `favourites_eq` have one column.
* `heldOrderRow_eq_ok_iff`, … `imageRow_eq_ok_iff` tie the readers to them: what is read is what
  stands in the columns of these names.
-/

namespace Marketplace

open Sql

/-! ## Columns -/

/-- A column as a statement names it. -/
def qualified (table column : String) : String := "\"" ++ table ++ "\".\"" ++ column ++ "\""

/-- Some columns as a statement lists them. -/
def selected (columns : List String) : String := ", ".intercalate columns

/-- The columns of an order. -/
inductive OrderColumn where
  | id
  | owner
  | product
  | count
  | status
  | createdAt
  | updatedAt
  deriving DecidableEq, Repr

namespace OrderColumn

def name : OrderColumn → String
  | id => "id"
  | owner => "owner_id"
  | product => "product_id"
  | count => "count"
  | status => "status"
  | createdAt => "created_at"
  | updatedAt => "updated_at"

def sql (c : OrderColumn) : String := qualified "orders" c.name

/-- The columns that are read when an order is locked. -/
def locked : List OrderColumn := [status, count, product]

/-- The columns that are read of a new order. -/
def inserted : List OrderColumn := [id, createdAt]

/-- The columns that a listing reads. -/
def listed : List OrderColumn := [id, owner, product, count, status, createdAt, updatedAt]

end OrderColumn

/-- The columns of a product that orders are about. -/
inductive ProductColumn where
  | id
  | saler
  | title
  | price
  | city
  | available
  | delivery
  | safeDeal
  | isActive
  deriving DecidableEq, Repr

namespace ProductColumn

def name : ProductColumn → String
  | id => "id"
  | saler => "saler_id"
  | title => "title"
  | price => "price"
  | city => "city"
  | available => "available_count"
  | delivery => "delivery"
  | safeDeal => "safe_deal"
  | isActive => "is_active"

def sql (c : ProductColumn) : String := qualified "product" c.name

/-- The columns that are read when a product is locked. -/
def locked : List ProductColumn :=
  [id, saler, title, price, city, available, delivery, safeDeal, isActive]

/-- The columns that a listing reads, behind those of the order. -/
def listed : List ProductColumn := [saler, title, price, city, available, delivery, safeDeal]

end ProductColumn

/-- The columns of an image. -/
inductive ImageColumn where
  | product
  | url
  deriving DecidableEq, Repr

namespace ImageColumn

def name : ImageColumn → String
  | product => "product_id"
  | url => "url"

def sql (c : ImageColumn) : String := qualified "product_images" c.name

/-- The columns that are read of an image. -/
def listed : List ImageColumn := [product, url]

end ImageColumn

/-! ## What the statements list -/

theorem lockOrder_eq (order : OrderId) (owner : UserId) : Sql.lockOrder order owner =
    .bound ("SELECT " ++ selected (OrderColumn.locked.map (·.sql)) ++ " FROM \"orders\" "
      ++ "WHERE ((\"orders\".\"id\" = $1) AND (\"orders\".\"owner_id\" = $2)) FOR UPDATE")
      [.integer order.toInt, .integer owner.toInt] := by
  refine congrArg (Statement.bound · _) ?_
  decide +kernel

theorem lockProduct_eq (product : ProductId) : Sql.lockProduct product =
    .bound ("SELECT " ++ selected (ProductColumn.locked.map (·.sql)) ++ " FROM \"product\" "
      ++ "WHERE (\"product\".\"id\" = $1) FOR UPDATE") [.integer product.toInt] := by
  refine congrArg (Statement.bound · _) ?_
  decide +kernel

theorem insertOrder_eq (o : NewOrder) : Sql.insertOrder o =
    .bound ("INSERT INTO \"orders\" (\"owner_id\", \"product_id\", \"count\", \"status\") "
      ++ "VALUES ($1, $2, $3, $4) RETURNING " ++ selected (OrderColumn.inserted.map (·.sql)))
      [.integer o.owner.toInt, .integer o.product.toInt, .integer o.count.toInt,
        .integer o.status.toInt] := by
  refine congrArg (Statement.bound · _) ?_
  decide +kernel

theorem orderColumns_eq : Sql.orderColumns =
    selected (OrderColumn.listed.map (·.sql) ++ ProductColumn.listed.map (·.sql))
      ++ " FROM (\"orders\" INNER JOIN \"product\" ON "
      ++ "(\"orders\".\"product_id\" = \"product\".\"id\"))" := by
  decide +kernel

/-- Which rows a listing asks for and in which order depends on its filter; the columns do not. -/
theorem loadOrders_sql (filter : OrderFilter) : ∃ condition, (Sql.loadOrders filter).sql =
    "SELECT " ++ (selected (OrderColumn.listed.map (·.sql) ++ ProductColumn.listed.map (·.sql))
      ++ condition) := by
  cases filter <;>
  · simp only [Sql.loadOrders, Statement.bound, orderColumns_eq, String.append_assoc]
    exact ⟨_, rfl⟩

theorem firstImages_eq (products : List ProductId) : Sql.firstImages products =
    .bound ("SELECT " ++ selected (ImageColumn.listed.map (·.sql)) ++ " FROM \"product_images\" "
      ++ "WHERE (\"product_images\".\"product_id\" = ANY($1)) "
      ++ "ORDER BY \"product_images\".\"id\" ASC")
      [.integers products] := by
  refine congrArg (Statement.bound · _) ?_
  decide +kernel

theorem basketOrderIds_eq (owner : UserId) : Sql.basketOrderIds owner =
    .bound ("SELECT " ++ OrderColumn.id.sql ++ " FROM \"orders\" "
      ++ "WHERE ((\"orders\".\"owner_id\" = $1) AND (\"orders\".\"status\" = $2)) "
      ++ "ORDER BY \"orders\".\"id\" ASC")
      [.integer owner.toInt, .integer OrderStatus.inBasket.code.toInt] := by
  refine congrArg (Statement.bound · _) ?_
  decide +kernel

theorem favourites_eq (owner : UserId) (products : List ProductId) :
    Sql.favourites owner products =
      .bound ("SELECT " ++ qualified "favourites" "product_id" ++ " FROM \"favourites\" "
        ++ "WHERE ((\"favourites\".\"owner_id\" = $1) "
        ++ "AND (\"favourites\".\"product_id\" = ANY($2)))")
        [.integer owner.toInt, .integers products] := by
  refine congrArg (Statement.bound · _) ?_
  decide +kernel

/-! ## What the readers read -/

variable {values : List Value}

theorem heldOrderRow_eq_ok_iff {status : Int16} {count : Int32} {product : ProductId} :
    heldOrderRow values = .ok (status, count, product) ↔
      ∃ row : OrderColumn → Value, values = OrderColumn.locked.map row ∧
        (row .status).int16? = .ok status ∧ (row .count).int32? = .ok count ∧
        (row .product).int64? = .ok product := by
  constructor
  · intro h
    unfold heldOrderRow at h
    split at h
    · rename_i status' count' product'
      simp only [bind_eq_ok_iff] at h
      obtain ⟨_, hstatus, _, hcount, _, hproduct, h⟩ := h
      cases h
      exact ⟨fun | .status => status' | .count => count' | .product => product' | _ => .null, rfl,
        hstatus, hcount, hproduct⟩
    · cases h
  · rintro ⟨row, rfl, hstatus, hcount, hproduct⟩
    simp only [OrderColumn.locked, List.map_cons, List.map_nil, heldOrderRow, bind_eq_ok_iff]
    exact ⟨_, hstatus, _, hcount, _, hproduct, rfl⟩

/-- The columns of a row are those of a product. -/
structure Product.InColumns (row : ProductColumn → Value) (p : Product) : Prop where
  id : (row .id).int64? = .ok p.id
  saler : (row .saler).int64? = .ok p.offer.saler
  title : (row .title).string? = .ok p.offer.title
  price : (row .price).price? = .ok p.offer.price
  city : (row .city).string? = .ok p.offer.city
  available : (row .available).int32? = .ok p.available
  delivery : (row .delivery).bool? = .ok p.offer.delivery
  safeDeal : (row .safeDeal).bool? = .ok p.offer.safeDeal
  isActive : (row .isActive).bool? = .ok p.isActive

theorem Product.ofRow?_eq_ok_iff {p : Product} : Product.ofRow? values = .ok p ↔
    ∃ row : ProductColumn → Value, values = ProductColumn.locked.map row ∧ p.InColumns row := by
  constructor
  · intro h
    unfold ofRow? at h
    split at h
    · rename_i id' saler' title' price' city' available' delivery' safeDeal' isActive'
      simp only [bind_eq_ok_iff] at h
      obtain ⟨_, hid, _, hsaler, _, htitle, _, hprice, _, hcity, _, havailable, _, hdelivery, _,
        hsafeDeal, _, hisActive, h⟩ := h
      cases h
      exact ⟨fun
        | .id => id' | .saler => saler' | .title => title' | .price => price' | .city => city'
        | .available => available' | .delivery => delivery' | .safeDeal => safeDeal'
        | .isActive => isActive', rfl, hid, hsaler, htitle, hprice, hcity, havailable, hdelivery,
        hsafeDeal, hisActive⟩
    · cases h
  · rintro ⟨row, rfl, h⟩
    simp only [ProductColumn.locked, List.map_cons, List.map_nil, ofRow?, bind_eq_ok_iff]
    exact ⟨_, h.id, _, h.saler, _, h.title, _, h.price, _, h.city, _, h.available, _, h.delivery, _,
      h.safeDeal, _, h.isActive, rfl⟩

/-- The columns of a row are those of an order and of its product. -/
structure OrderRow.InColumns (o : OrderColumn → Value) (p : ProductColumn → Value) (r : OrderRow) :
    Prop where
  id : (o .id).int64? = .ok r.order.id
  owner : (o .owner).int64? = .ok r.order.owner
  product : (o .product).int64? = .ok r.order.product
  count : (o .count).int32? = .ok r.order.count
  status : (o .status).int16? = .ok r.order.status
  createdAt : (o .createdAt).instant? = .ok r.order.createdAt
  updatedAt : (o .updatedAt).instant? = .ok r.order.updatedAt
  saler : (p .saler).int64? = .ok r.offer.saler
  title : (p .title).string? = .ok r.offer.title
  price : (p .price).price? = .ok r.offer.price
  city : (p .city).string? = .ok r.offer.city
  available : (p .available).int32? = .ok r.available
  delivery : (p .delivery).bool? = .ok r.offer.delivery
  safeDeal : (p .safeDeal).bool? = .ok r.offer.safeDeal

theorem OrderRow.ofRow?_eq_ok_iff {r : OrderRow} : OrderRow.ofRow? values = .ok r ↔
    ∃ (o : OrderColumn → Value) (p : ProductColumn → Value),
      values = OrderColumn.listed.map o ++ ProductColumn.listed.map p ∧ r.InColumns o p := by
  constructor
  · intro h
    unfold ofRow? at h
    split at h
    · rename_i id' owner' product' count' status' createdAt' updatedAt' saler' title' price' city'
        available' delivery' safeDeal'
      simp only [bind_eq_ok_iff] at h
      obtain ⟨_, hid, _, howner, _, hproduct, _, hcount, _, hstatus, _, hcreatedAt, _, hupdatedAt,
        _, hsaler, _, htitle, _, hprice, _, hcity, _, havailable, _, hdelivery, _, hsafeDeal, h⟩ := h
      cases h
      exact ⟨fun
        | .id => id' | .owner => owner' | .product => product' | .count => count'
        | .status => status' | .createdAt => createdAt' | .updatedAt => updatedAt',
        fun
        | .saler => saler' | .title => title' | .price => price' | .city => city'
        | .available => available' | .delivery => delivery' | .safeDeal => safeDeal'
        | _ => .null, rfl, hid, howner, hproduct, hcount, hstatus, hcreatedAt, hupdatedAt, hsaler,
        htitle, hprice, hcity, havailable, hdelivery, hsafeDeal⟩
    · cases h
  · rintro ⟨o, p, rfl, h⟩
    simp only [OrderColumn.listed, ProductColumn.listed, List.map_cons, List.map_nil,
      List.cons_append, List.nil_append, ofRow?, bind_eq_ok_iff]
    exact ⟨_, h.id, _, h.owner, _, h.product, _, h.count, _, h.status, _, h.createdAt, _,
      h.updatedAt, _, h.saler, _, h.title, _, h.price, _, h.city, _, h.available, _, h.delivery, _,
      h.safeDeal, rfl⟩

theorem newOrderRow_eq_ok_iff {order : OrderId} {createdAt : Instant} :
    newOrderRow values = .ok (order, createdAt) ↔
      ∃ row : OrderColumn → Value, values = OrderColumn.inserted.map row ∧
        (row .id).int64? = .ok order ∧ (row .createdAt).instant? = .ok createdAt := by
  constructor
  · intro h
    unfold newOrderRow at h
    split at h
    · rename_i id' createdAt'
      simp only [bind_eq_ok_iff] at h
      obtain ⟨_, hid, _, hcreatedAt, h⟩ := h
      cases h
      exact ⟨fun | .id => id' | .createdAt => createdAt' | _ => .null, rfl, hid, hcreatedAt⟩
    · cases h
  · rintro ⟨row, rfl, hid, hcreatedAt⟩
    simp only [OrderColumn.inserted, List.map_cons, List.map_nil, newOrderRow, bind_eq_ok_iff]
    exact ⟨_, hid, _, hcreatedAt, rfl⟩

theorem imageRow_eq_ok_iff {image : ProductId × String} : imageRow values = .ok image ↔
    ∃ row : ImageColumn → Value, values = ImageColumn.listed.map row ∧
      (row .product).int64? = .ok image.1 ∧ (row .url).string? = .ok image.2 := by
  constructor
  · intro h
    unfold imageRow at h
    split at h
    · rename_i product' url'
      simp only [bind_eq_ok_iff] at h
      obtain ⟨_, hproduct, _, hurl, h⟩ := h
      cases h
      exact ⟨fun | .product => product' | .url => url', rfl, hproduct, hurl⟩
    · cases h
  · rintro ⟨row, rfl, hproduct, hurl⟩
    simp only [ImageColumn.listed, List.map_cons, List.map_nil, imageRow, bind_eq_ok_iff]
    exact ⟨_, hproduct, _, hurl, rfl⟩

/-! ## Whole replies -/

namespace Sql.Reply

variable {r : Reply}

/-- A listing is read row by row. -/
theorem orderRows_eq_ok_iff {rows : List OrderRow} : r.rows? OrderRow.ofRow? = .ok rows ↔
    r.check = .ok () ∧ r.rowList.Forall₂ (fun values row =>
      ∃ (o : OrderColumn → Value) (p : ProductColumn → Value),
        values = OrderColumn.listed.map o ++ ProductColumn.listed.map p ∧ row.InColumns o p)
      rows := by
  simp only [rows?_eq_ok_iff, OrderRow.ofRow?_eq_ok_iff]

/-- Images are read row by row. -/
theorem imageRows_eq_ok_iff {images : List (ProductId × String)} :
    r.rows? imageRow = .ok images ↔
      r.check = .ok () ∧ r.rowList.Forall₂ (fun values image =>
        ∃ row : ImageColumn → Value, values = ImageColumn.listed.map row ∧
          (row .product).int64? = .ok image.1 ∧ (row .url).string? = .ok image.2)
        images := by
  simp only [rows?_eq_ok_iff, imageRow_eq_ok_iff]

end Sql.Reply

end Marketplace
